import FencedChat.Category
import FencedChat.Pattern.Source
import FencedChat.Pattern.Words
import FencedChat.Text.Quoted

/-!
Rules of a grammar. A rule gives a category to the text that its pattern matches; rules of a lower
priority number are tried first.
-/

namespace FencedChat

inductive GrammarError
  | unknownCategory (name : String)
  | unreadablePattern (source : String)
  | plainRule
  | capturingRule (pattern : Pattern)
  | emptyMatch (pattern : Pattern)
  | noRules (name : String)
  deriving Repr, DecidableEq

def GrammarError.message : GrammarError → String
  | unknownCategory name => quoted name ++ " is not a valid TokenCategory"
  | unreadablePattern source => "Rule pattern cannot be read: " ++ quoted source
  | plainRule => "Plain text is what no rule matches; it cannot be a rule"
  | capturingRule p => "Rule pattern must not capture: " ++ quoted p.source
  | emptyMatch p => "Rule pattern matches the empty string: " ++ quoted p.source
  | noRules name => "Grammar '" ++ name ++ "' needs at least one rule"

/-- A rule of a grammar. Its pattern remembers nothing and does not match the empty text. -/
structure Rule where
  category : Category
  pattern : Pattern
  priority : Int
  notPlain : category ≠ .plain := by decide
  notCapturing : pattern.captures = false := by decide +kernel
  notEmpty : pattern.matchesEmpty = false := by decide +kernel

namespace Rule

/-- A rule of any category and pattern, where these make a rule. -/
def make? (category : Category) (pattern : Pattern) (priority : Int) : Except GrammarError Rule :=
  if hp : category = .plain then .error .plainRule
  else if hc : pattern.captures = true then .error (.capturingRule pattern)
  else if he : pattern.matchesEmpty = true then .error (.emptyMatch pattern)
  else .ok ⟨category, pattern, priority, hp, by simpa using hc, by simpa using he⟩

theorem make?_pattern {c : Category} {p : Pattern} {n : Int} {r : Rule}
    (h : make? c p n = .ok r) : r.category = c ∧ r.pattern = p ∧ r.priority = n := by
  unfold make? at h
  split at h
  · simp at h
  split at h
  · simp at h
  split at h
  · simp at h
  cases h
  exact ⟨rfl, rfl, rfl⟩

end Rule

namespace Priority

/-- The usual priorities of the kinds of rules, from comments down to operators. -/
def blockComment : Int := 1
def lineComment : Int := 2
def string : Int := 3
def number : Int := 4
def keyword : Int := 5
def builtin : Int := 6
def operator : Int := 7

end Priority

end FencedChat
