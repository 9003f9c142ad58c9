/-!
The history of sent inputs, browsed like that of a shell.
-/

namespace FencedChat

/-- Sent inputs, oldest first, and the one being looked at while browsing. -/
structure InputHistory where
  entries : List String
  cursor : Option Nat
  deriving DecidableEq, Repr

namespace InputHistory

def empty : InputHistory := ⟨[], none⟩

/-- Remembers an input, once if it was sent several times in a row, and ends browsing. -/
def record (h : InputHistory) (value : String) : InputHistory :=
  ⟨if h.entries.getLast? = some value then h.entries else h.entries ++ [value], none⟩

def older (h : InputHistory) : Option String × InputHistory :=
  if h.entries.isEmpty then (none, h)
  else
    let i := match h.cursor with
      | none => h.entries.length - 1
      | some i => i - 1
    (h.entries[i]?, { h with cursor := some i })

/-- The input after the one being looked at, and an empty input after the newest one. -/
def newer (h : InputHistory) : Option String × InputHistory :=
  match h.cursor with
  | none => (none, h)
  | some i =>
    if i + 1 < h.entries.length then (h.entries[i + 1]?, { h with cursor := some (i + 1) })
    else (some "", { h with cursor := none })

end InputHistory

end FencedChat
