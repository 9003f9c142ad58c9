import FencedChat.Text.Lines

/-!
Text areas. A text that is loaded is kept as lines, and given back with one kind of line end.
-/

namespace FencedChat

/-- The text of a text area: its lines, of which there is at least one, and what stands between
them. -/
structure TextArea where
  firstLine : List Char
  otherLines : List (List Char)
  lineEnd : List Char
  deriving DecidableEq, Repr

namespace TextArea

def hasPairedEnd : List Char → Bool
  | '\r' :: '\n' :: _ => true
  | _ :: r => hasPairedEnd r
  | [] => false

def lineEndOf (s : List Char) : List Char :=
  if hasPairedEnd s then ['\r', '\n']
  else if s.contains '\n' then ['\n']
  else if s.contains '\r' then ['\r']
  else ['\n']

/-- The lines of a text. A newline or carriage return at its end starts one more line. -/
def linesOf (s : List Char) : List (List Char) :=
  match s.getLast? with
  | some '\n' => splitLines s ++ [[]]
  | some '\r' => splitLines s ++ [[]]
  | _ => splitLines s

def ofText (s : String) : TextArea :=
  let cs := s.toList
  match linesOf cs with
  | [] => ⟨[], [], lineEndOf cs⟩
  | l :: ls => ⟨l, ls, lineEndOf cs⟩

def empty : TextArea := ofText ""

def lines (t : TextArea) : List (List Char) := t.firstLine :: t.otherLines

/-- What is assumed of a text area that a text is loaded into: it keeps the lines of the text, and
the kind of line end that the text is written with. -/
structure KeepsLines (load : String → TextArea) : Prop where
  lines : ∀ s, (load s).lines = if s.toList = [] then [[]] else linesOf s.toList
  lineEnd : ∀ s, (load s).lineEnd = lineEndOf s.toList

def chars (t : TextArea) : List Char :=
  t.firstLine ++ t.otherLines.flatMap fun l => t.lineEnd ++ l

def text (t : TextArea) : String := String.ofList t.chars

end TextArea

/-- A place in a text area: a line and a column, both counted from zero. -/
structure TextPlace where
  line : Nat
  column : Nat
  deriving DecidableEq, Repr

namespace TextPlace

def start : TextPlace := ⟨0, 0⟩

def stop (t : TextArea) : TextPlace :=
  ⟨t.lines.length - 1, (t.lines.getLast?.getD []).length⟩

/-- A place in a line, as far right as the line goes. -/
def inLine (t : TextArea) (line column : Nat) : TextPlace :=
  ⟨line, min column (t.lines[line]?.getD []).length⟩

def up (t : TextArea) (p : TextPlace) : TextPlace :=
  if p.line = 0 then start else inLine t (p.line - 1) p.column

def down (t : TextArea) (p : TextPlace) : TextPlace :=
  if p.line + 1 < t.lines.length then inLine t (p.line + 1) p.column else stop t

end TextPlace

namespace TextArea

def insert (t : TextArea) (c : Char) (p : TextPlace) : TextArea :=
  let put := fun l : List Char => l.take p.column ++ c :: l.drop p.column
  if p.line = 0 then { t with firstLine := put t.firstLine }
  else { t with otherLines := t.otherLines.modify (p.line - 1) put }

end TextArea

end FencedChat
