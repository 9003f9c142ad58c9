import FencedChat.Category
import FencedChat.Markup.Entity
import FencedChat.Markup.Escape

/-!
The tags that mark a classified piece of source text, and the way back from markup to source text:
drop the tags, then decode the character references.
-/

namespace FencedChat.Markup

def tagStart : List Char := "<span class=\"".toList

def tagEnd : List Char := "</span>".toList

/-- Raw text inside a tag of a class. The text is escaped once. -/
def wrap (cls text : String) : String :=
  String.ofList (tagStart ++ cls.toList ++ ['"', '>'] ++ escapeChars text.toList ++ tagEnd)

def openingTag? (s : List Char) : Option (List Char) :=
  match tagStart.isPrefixOf? s with
  | none => none
  | some r => Category.classified.findSome? fun c => (c.name.toList ++ ['"', '>']).isPrefixOf? r

/-- The tagged text at the start of `s`, still escaped, and what comes after its closing tag. Tagged
text holds no opening bracket. -/
def tagged? (s : List Char) : Option (List Char × List Char) :=
  match openingTag? s with
  | none => none
  | some r =>
    let inner := r.takeWhile (· ≠ '<')
    (tagEnd.isPrefixOf? (r.drop inner.length)).map fun rest => (inner, rest)

/-- Writes the text without tags behind `done`, which is held in reverse. The fuel is a bound on the
number of characters. -/
def dropTagsOnto (done : List Char) : Nat → List Char → List Char
  | _, [] => done.reverse
  | 0, s => done.reverse ++ s
  | n + 1, c :: r =>
    match tagged? (c :: r) with
    | some (inner, rest) => dropTagsOnto (inner.reverse ++ done) n rest
    | none => dropTagsOnto (c :: done) n r

def dropTags (s : List Char) : List Char := dropTagsOnto [] s.length s

/-- The source text that markup shows. Text that holds neither tags nor references stays as it
is. -/
def recoverChars (s : List Char) : Except EntityError (List Char) := decode (dropTags s)

/-- The source text that markup shows. -/
def recover (s : String) : Except EntityError String := (recoverChars s.toList).map String.ofList

def hasTags : List Char → Bool
  | [] => false
  | c :: r => (tagged? (c :: r)).isSome || hasTags r

end FencedChat.Markup
