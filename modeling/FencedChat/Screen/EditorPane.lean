import FencedChat.Editor.Insertion
import FencedChat.Screen.TextArea

/-!
The editor: a text area beside the document that it shows. A change of the area is only announced,
and the document follows when the announcement is handled; other steps may come before that.
-/

namespace FencedChat

structure EditorPane where
  document : Document
  area : TextArea
  /-- The number of changes that were announced and not yet handled. -/
  announced : Nat
  deriving DecidableEq, Repr

namespace EditorPane

def load (p : EditorPane) (s : String) : EditorPane :=
  { p with area := .ofText s, announced := p.announced + 1 }

def refresh (p : EditorPane) : EditorPane :=
  match p.document with
  | .closed => p.load ""
  | .opened b => if p.area.text = b.content then p else p.load b.content

def ofDocument (d : Document) : EditorPane := refresh ⟨d, .empty, 0⟩

def edit (p : EditorPane) (s : String) : EditorPane := p.load s

def follow (p : EditorPane) : Document :=
  if p.area.text = p.document.content then p.document
  else match p.document.setContent p.area.text with
    | .ok d => d
    | .error _ => p.document

def handleChange (p : EditorPane) : EditorPane :=
  match p.announced with
  | 0 => p
  | n + 1 => { p with document := p.follow, announced := n }

def settle (p : EditorPane) : EditorPane :=
  match _h : p.announced with
  | 0 => p
  | n + 1 => settle { p with document := p.follow, announced := n }
termination_by p.announced
decreasing_by simp_all

def setDocument (p : EditorPane) (d : Document) : EditorPane := { p with document := d }.refresh

def insertBlock (p : EditorPane) (b : CodeBlock) : EditorPane × Insertion Document :=
  let i := p.document.insertBlock b
  (if i.result.ok then p.setDocument i.document else p, i)

def isReadOnly (p : EditorPane) : Bool := !p.document.isOpen

def subtitle (p : EditorPane) : String :=
  match p.document with
  | .closed => ""
  | .opened b => if b.dirty then "Modified" else "Saved"

def status (p : EditorPane) : String :=
  match p.document with
  | .closed => "No file open"
  | .opened b => b.name ++ (if b.dirty then " *" else "") ++ "  [" ++ p.subtitle ++ "]"

end EditorPane

end FencedChat
