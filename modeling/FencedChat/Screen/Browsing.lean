import FencedChat.Screen.InputHistory
import FencedChat.Session

/-!
Browsing the history of sent inputs as it is kept, in a list and a cursor that are assigned one
after the other. The cursor is the index of the input being looked at, and an index that leads to no
input is an error.
-/

namespace FencedChat

/-- The fields that the history is kept in. There is no cursor while nothing is browsed. -/
structure HistoryFields where
  entries : List String
  cursor : Option Int
  deriving DecidableEq, Repr

def InputHistory.fields (h : InputHistory) : HistoryFields :=
  ⟨h.entries, h.cursor.map fun i => (i : Int)⟩

inductive LookupError
  | noIndex
  | outOfRange (index : Int)
  deriving DecidableEq, Repr

namespace HistoryFields

abbrev Action := EStateM LookupError HistoryFields

namespace Action

def entries : Action (List String) := return (← get).entries

def cursor : Action (Option Int) := return (← get).cursor

def setEntries (entries : List String) : Action Unit :=
  modify fun f => { f with entries := entries }

def setCursor (cursor : Option Int) : Action Unit := modify fun f => { f with cursor := cursor }

/-- The input at an index, counted from the end if the index is negative. -/
def entryAt : Option Int → Action String
  | none => throw .noIndex
  | some i => do
    match memberAt? (← entries) i with
    | some entry => return entry
    | none => throw (.outOfRange i)

/-- Remembers an input, once if it was sent several times in a row, and ends browsing. -/
def record (value : String) : Action Unit := do
  if (← entries).getLast? ≠ some value then setEntries ((← entries) ++ [value])
  setCursor none

/-- Moves to the input before the one being looked at, or to the newest one. -/
def stepBack : Action Unit := do
  match ← cursor with
  | none => setCursor (some ((← entries).length - 1))
  | some i => if 0 < i then setCursor (some (i - 1))

def older : Action (Option String) := do
  if (← entries).isEmpty then return none
  stepBack
  return some (← entryAt (← cursor))

/-- The input after the one being looked at, and an empty input after the newest one. -/
def newer : Action (Option String) := do
  match ← cursor with
  | none => return none
  | some i =>
    if i < (← entries).length - 1 then
      setCursor (some (i + 1))
      return some (← entryAt (← cursor))
    else
      setCursor none
      return some ""

end Action

inductive Call
  | record (value : String)
  | older
  | newer
  deriving DecidableEq, Repr

def Call.action : Call → Action (Option String)
  | record value => do
    Action.record value
    return none
  | older => Action.older
  | newer => Action.newer

end HistoryFields

end FencedChat
