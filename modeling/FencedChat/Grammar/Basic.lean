import FencedChat.Grammar.Rule
import FencedChat.Text.Case

/-!
Grammars: a name, the tags of a language, and rules in the order in which they are tried.
-/

namespace FencedChat

structure Grammar where
  name : String
  rules : List Rule
  aliases : List String
  rules_ne : rules ≠ []

namespace Grammar

/-- Puts a rule before the first rule of the same or a later priority. -/
def insertRule (r : Rule) : List Rule → List Rule
  | [] => [r]
  | q :: qs => if r.priority ≤ q.priority then r :: q :: qs else q :: insertRule r qs

/-- The rules by priority; rules of one priority keep their order. -/
def byPriority (rules : List Rule) : List Rule := rules.foldr insertRule []

theorem insertRule_ne_nil (r : Rule) (rules : List Rule) : insertRule r rules ≠ [] := by
  cases rules with
  | nil => simp [insertRule]
  | cons q qs => unfold insertRule; split <;> simp

theorem byPriority_ne_nil {rules : List Rule} (h : rules ≠ []) : byPriority rules ≠ [] := by
  cases rules with
  | nil => exact absurd rfl h
  | cons r rs => exact insertRule_ne_nil r (byPriority rs)

/-- The grammar of the given rules. Name and aliases are kept in lower case. -/
def ofRules (name : String) (rules : List Rule) (aliases : List String)
    (h : rules ≠ [] := by simp) : Grammar :=
  ⟨lower name, byPriority rules, aliases.map lower, byPriority_ne_nil h⟩

def make? (name : String) (rules : List Rule) (aliases : List String) :
    Except GrammarError Grammar :=
  if h : rules = [] then .error (.noRules name) else .ok (ofRules name rules aliases h)

/-- The tags that the language answers to: the aliases and the name. -/
def tags (g : Grammar) : List String := (g.name :: g.aliases).eraseDups

end Grammar

end FencedChat
