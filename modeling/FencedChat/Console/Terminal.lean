import FencedChat.Console.Panel
import FencedChat.Console.StyleTag
import FencedChat.Console.Table

/-!
The terminal of a program: it reads the style tags of texts and draws texts, tables and panels.
Programs are written for any terminal. What they rely on is stated here as laws, which the standard
terminal has to meet like any other.
-/

namespace FencedChat

open Console StyleTag

/-- What a terminal is asked to draw. The tags of its texts have been read. -/
inductive Drawing
  | raw (s : String)
  | text (s : String)
  /-- A text in which emoji may stand as codes. -/
  | message (s : String)
  | table (columns : List TableColumn) (rows : List (List String))
  | panel (title subtitle : String) (body : List Char)

namespace Drawing

/-- Raw text in lines of any length, and everything else in lines that fit the terminal. -/
def lines : Drawing → List (List Char)
  | raw s => plainLines s
  | text s => wrappedLines Console.columns s
  | message s => wrappedLines Console.columns (String.ofList (withEmoji namedEmoji? s.toList))
  | table columns rows => Table.laidOut columns (rows.map (·.map String.toList))
  | panel title subtitle body => framed title subtitle body

end Drawing

structure Terminal where
  /-- The emoji that a name between colons stands for. -/
  emoji? : List Char → Option (List Char)
  /-- What a text with style tags shows. -/
  shown : String → Except TagError String
  draw : Drawing → List (List Char)

namespace Terminal

def standard : Terminal := ⟨namedEmoji?, StyleTag.shown, Drawing.lines⟩

def tableLines (t : Terminal) (table : Table) : Except TagError (List (List Char)) := do
  let rows ← table.rows.mapM fun row => row.mapM t.shown
  return t.draw (.table table.columns rows)

def panelLines (t : Terminal) (title subtitle : String) (body : List Char) :
    Except TagError (List (List Char)) := do
  let title ← t.shown title
  let subtitle ← t.shown subtitle
  return t.draw (.panel title subtitle body)

def commandStyles : List String := ["bold yellow", "dim", "red", "yellow"]

/-- What the commands rely on when a terminal reads style tags. -/
structure ReadsTags (t : Terminal) : Prop where
  /-- Tags are not shown, and everything else is. -/
  shows : ∀ s out, t.shown s = .ok out → out.toList = visible t.emoji? (pieces s.toList)
  /-- No emoji holds a sign that is read as part of a tag or a code. -/
  signless : ∀ name e, t.emoji? name = some e → '[' ∉ e ∧ ':' ∉ e ∧ '\\' ∉ e
  /-- A style of the commands can be opened, and then closed with or without its name. -/
  matched : ∀ style ∈ commandStyles, ∀ closing ∈ [['/'], '/' :: style.toList], ∀ s,
    tags (pieces s.toList) <+: [style.toList, closing] → ∃ out, t.shown s = .ok out
  /-- A closing tag without a matching open one cannot be shown. -/
  unmatched : ∀ s, ClosesTooMany (tags (pieces s.toList)) → ∃ e, t.shown s = .error e

/-- Whether a text is one word of characters that can be shown. -/
def IsWord (s : String) : Prop := ∀ c ∈ s.toList, isBlank c = false ∧ isUnshowable c = false

/-- What the commands rely on when a terminal draws tables and panels. -/
structure DrawsWhole (t : Terminal) : Prop where
  /-- If there is room for all columns, a word in a column without a width of its own stands in one
  line. -/
  cells : ∀ (columns : List TableColumn) (rows : List (List String)),
    Table.Fits columns (rows.map (·.map String.toList)) → ∀ row ∈ rows, ∀ (i : Nat) c s,
      columns[i]? = some c → c.width = none → row[i]? = some s → IsWord s →
      ∃ line ∈ t.draw (.table columns rows), s.toList <:+: line
  /-- A word that is the title of a panel stands in the first line if there is room for it. -/
  titles : ∀ title subtitle body, IsWord title → cellLength title.toList + 2 ≤ titleWidth →
    ∃ border ∈ (t.draw (.panel title subtitle body)).head?, title.toList <:+: border

end Terminal

end FencedChat
