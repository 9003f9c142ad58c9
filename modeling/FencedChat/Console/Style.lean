import FencedChat.Console.Color
import FencedChat.Text.Blank
import FencedChat.Text.Case

/-!
Styles as words describe them: attributes that are turned on or off, a color, a color behind the
text and a link. Styles with the same effect have the same description.
-/

namespace FencedChat.Console

inductive StyleAttribute
  | bold | dim | italic | underline | blink | blink2 | reverse | conceal | strike | underline2
  | frame | encircle | overline
  deriving DecidableEq, Repr

namespace StyleAttribute

def all : List StyleAttribute :=
  [bold, dim, italic, underline, blink, blink2, reverse, conceal, strike, underline2, frame,
    encircle, overline]

theorem mem_all (a : StyleAttribute) : a ∈ all := by cases a <;> decide

def name : StyleAttribute → String
  | bold => "bold"
  | dim => "dim"
  | italic => "italic"
  | underline => "underline"
  | blink => "blink"
  | blink2 => "blink2"
  | reverse => "reverse"
  | conceal => "conceal"
  | strike => "strike"
  | underline2 => "underline2"
  | frame => "frame"
  | encircle => "encircle"
  | overline => "overline"

def shortName? : StyleAttribute → Option String
  | bold => some "b"
  | dim => some "d"
  | italic => some "i"
  | underline => some "u"
  | reverse => some "r"
  | conceal => some "c"
  | strike => some "s"
  | underline2 => some "uu"
  | overline => some "o"
  | _ => none

def ofWord? (word : String) : Option StyleAttribute :=
  all.find? fun a => a.name == word || a.shortName? == some word

@[simp] theorem ofWord?_name (a : StyleAttribute) : ofWord? a.name = some a := by
  cases a <;> decide

end StyleAttribute

structure Style where
  /-- The attributes that are turned on or off, the latest first. -/
  attributes : List (StyleAttribute × Bool) := []
  color? : Option String := none
  background? : Option String := none
  link? : Option String := none
  deriving DecidableEq, Repr

namespace Style

/-- The style that words describe beside what is described already, if they describe one. -/
def ofWordsOnto (style : Style) : List String → Except ColorError (Option Style)
  | [] => .ok (some style)
  | [word] => do
    match StyleAttribute.ofWord? (lower word) with
    | some a => return some { style with attributes := (a, true) :: style.attributes }
    | none =>
      return if ← isColor (lower word) then some { style with color? := some (lower word) }
      else none
  | word :: next :: rest =>
    match lower word with
    | "on" => do
      if ← isColor (lower next) then
        ofWordsOnto { style with background? := some (lower next) } rest
      else return none
    | "not" =>
      match StyleAttribute.ofWord? next with
      | some a => ofWordsOnto { style with attributes := (a, false) :: style.attributes } rest
      | none => .ok none
    | "link" => ofWordsOnto { style with link? := some next } rest
    | key =>
      match StyleAttribute.ofWord? key with
      | some a =>
        ofWordsOnto { style with attributes := (a, true) :: style.attributes } (next :: rest)
      | none => do
        if ← isColor key then ofWordsOnto { style with color? := some key } (next :: rest)
        else return none

/-- The words that describe a style, each attribute once and all in a fixed order. -/
def description (s : Style) : List String :=
  (StyleAttribute.all.filterMap fun a =>
      (s.attributes.lookup a).map fun on => if on then a.name else "not " ++ a.name)
    ++ s.color?.toList ++ s.background?.toList.map ("on " ++ ·) ++ s.link?.toList.map ("link " ++ ·)

def wordsOf (s : List Char) : List String :=
  ((s.splitBy fun a b => isBlank a == isBlank b).filter fun w => !w.any isBlank).map String.ofList

/-- The form in which the names of styles are compared: the description of the style if the name
describes one, and the name in lower case if it does not. -/
def nameKey (name : List Char) : Except ColorError (List Char) := do
  match ← ofWordsOnto {} (wordsOf name) with
  | some style => return (" ".intercalate style.description).toList
  | none => return (lower (String.ofList (trimChars name))).toList

end Style

end FencedChat.Console
