import FencedChat.Grammar.Registry
import FencedChat.Grammar.Scan
import FencedChat.Language.Builtin
import FencedChat.Log
import FencedChat.Markup.TokenTag

/-!
Highlighting: source text as spans of one category each, and as markup with a tag around every
classified span. Text of an unknown language, and text that is too long, is escaped only.
-/

namespace FencedChat

namespace Span

def escaped (s : Span) : String := Markup.escape s.text

/-- A classified span stands in a tag, a plain one stands bare. -/
def markup (s : Span) : String :=
  if s.category = .plain then s.escaped else Markup.wrap s.category.name s.text

/-- Puts the plain pieces that were held back before the spans found so far, as one span. Both are
held in reverse. -/
def releasePlain (plain : List String) (done : List Span) : List Span :=
  if plain.isEmpty then done else ⟨.plain, String.join plain.reverse⟩ :: done

/-- Joins plain pieces that follow one another, behind the spans found so far and the plain pieces
that were held back. -/
def joinPlainOnto (done : List Span) (plain : List String) : List Span → List Span
  | [] => (releasePlain plain done).reverse
  | x :: xs =>
    if x.category = .plain then joinPlainOnto done (x.text :: plain) xs
    else joinPlainOnto (x :: releasePlain plain done) [] xs

def joinPlain (pieces : List Span) : List Span := joinPlainOnto [] [] pieces

end Span

/-- The spans of a text: its pieces, with no two plain ones side by side. -/
def Grammar.tokens (g : Grammar) (code : String) : List Span := Span.joinPlain (g.scan code)

/-- A registry of grammars and the length up to which text is classified. -/
structure Highlighter where
  registry : Registry
  maxChars : Int

namespace Highlighter

/-- The length up to which text is classified, unless said otherwise. -/
def usualMaxChars : Int := 200000

def standard : Highlighter := ⟨Language.registry, usualMaxChars⟩

def grammarFor (h : Highlighter) (code : String) (language : Option String) :
    Logged (Option Grammar) :=
  match language.bind h.registry.get? with
  | none => do
    .entry .debug "Highlight"
      ("[UNKNOWN_LANGUAGE] '" ++ language.getD "None" ++ "' has no grammar, escaping only")
    return none
  | some g =>
    if h.maxChars < code.length then do
      .entry .warning "Highlight"
        (toString code.length ++ " chars exceeds " ++ toString h.maxChars ++ ", escaping only")
      return none
    else return some g

/-- The text as one plain span, or no span if there is no text. -/
def plainSpans (code : String) : List Span := if code = "" then [] else [⟨.plain, code⟩]

def spans (h : Highlighter) (code : String) (language : Option String) : Logged (List Span) := do
  match ← h.grammarFor code language with
  | none => return plainSpans code
  | some g => return g.tokens code

def markupOf (spans : List Span) : String := String.join (spans.map Span.markup)

/-- A text as markup. Every character is shown, also one that looks like markup itself. -/
def render (h : Highlighter) (code : String) (language : Option String) : Logged String := do
  match ← h.grammarFor code language with
  | none => return Markup.escape code
  | some g => return markupOf (g.tokens code)

/-- The markup of a text, which may be markup already. A text that cannot be decoded has none. -/
def highlight (h : Highlighter) (code : String) (language : Option String) :
    Except Markup.EntityError (Logged String) :=
  (Markup.recover code).map fun source => h.render source language

end Highlighter

end FencedChat
