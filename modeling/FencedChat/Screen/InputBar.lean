import FencedChat.Screen.InputHistory
import FencedChat.Screen.TextArea
import FencedChat.Text.Blank

/-!
The input of the chat. At the very start and the very end of the text, the arrow keys browse the
inputs that were sent.
-/

namespace FencedChat

structure InputBar where
  area : TextArea
  cursor : TextPlace
  history : InputHistory
  deriving DecidableEq, Repr

namespace InputBar

def empty : InputBar := ⟨.empty, .start, .empty⟩

def text (b : InputBar) : String := b.area.text

def setText (b : InputBar) (s : String) : InputBar := { b with area := .ofText s, cursor := .start }

def browse (b : InputBar) (found : Option String × InputHistory) : InputBar :=
  match found with
  | (none, h) => { b with history := h }
  | (some s, h) => { b with history := h }.setText s

def up (b : InputBar) : InputBar :=
  if b.cursor = .start then b.browse b.history.older
  else { b with cursor := b.cursor.up b.area }

def down (b : InputBar) : InputBar :=
  if b.cursor = .stop b.area then b.browse b.history.newer
  else { b with cursor := b.cursor.down b.area }

def type (b : InputBar) (c : Char) : InputBar :=
  { b with
    area := b.area.insert c b.cursor
    cursor := { b.cursor with column := b.cursor.column + 1 } }

/-- Takes the text out of the input to send it. A blank text stays. -/
def submit (b : InputBar) : Option String × InputBar :=
  if isBlankText b.text then (none, b)
  else (some b.text, { b with history := b.history.record b.text }.setText "")

end InputBar

end FencedChat
