import FencedChat.Editor.Insertion

/-!
Inserting code into any document, one call of the document after the other. A document may claim to
be open and still refuse what it is asked for, which is an error until it is caught.
-/

namespace FencedChat

inductive DocumentCall
  | isOpen (answer : Bool)
  | name (answer : Option String)
  | content (outcome : Except Refusal String)
  | setContent (content : String) (outcome : Except Refusal Unit)

/-- An insertion under way: the document, and the calls of it, the notices and the log so far. -/
structure Inserting (σ : Type) where
  document : σ
  calls : List DocumentCall
  notices : List Notice
  log : List LogEntry

namespace Inserting

variable {σ : Type}

abbrev Action (σ : Type) := EStateM Refusal (Inserting σ)

namespace Action

def called (c : DocumentCall) : Action σ Unit := modify fun s => { s with calls := s.calls ++ [c] }

def notify (level : NoticeLevel) (message : String) : Action σ Unit :=
  modify fun s => { s with notices := s.notices ++ [⟨level, message⟩] }

def note (level : LogLevel) (message : String) : Action σ Unit :=
  modify fun s => { s with log := s.log ++ [⟨level, "Insert", message⟩] }

def reject (label operation : String) : Action σ InsertionResult := do
  let f := Fault.noActiveDocument operation
  let message := f.shownDetail.getD f.code
  note .warning ("[" ++ f.code ++ "] " ++ label ++ " not inserted")
  notify .error message
  return ⟨.noActiveDocument, label, message, none⟩

variable (doc : ActiveDocument σ)

def isOpen : Action σ Bool := do
  let answer := doc.isOpen (← get).document
  called (.isOpen answer)
  return answer

def name : Action σ (Option String) := do
  let answer := doc.name (← get).document
  called (.name answer)
  return answer

def content : Action σ String := do
  match doc.content (← get).document with
  | .ok current =>
    called (.content (.ok current))
    return current
  | .error e =>
    called (.content (.error e))
    throw e

def setContent (s : String) : Action σ Unit := do
  match doc.setContent s (← get).document with
  | .ok document =>
    called (.setContent s (.ok ()))
    modify fun s => { s with document := document }
  | .error e =>
    called (.setContent s (.error e))
    throw e

/-- Puts code behind the content. Gives the operation that the document refused, if it refused
one. -/
def append (code : String) : Action σ (Option String) :=
  try
    let current ← content doc
    setContent doc (current ++ Insertion.separator ++ code)
    pure none
  catch e => pure (some e.operation)

def accept (code label : String) : Action σ InsertionResult := do
  let name ← name doc
  let message := "Code from " ++ label ++ " added to current file. Don't forget to save!"
  note .info ("Appended " ++ toString code.length ++ " chars from " ++ label ++ " to " ++
    name.getD "None")
  notify .success message
  return ⟨.inserted, label, message, name⟩

/-- Inserts code. The label names where the code came from. -/
def insert (code label : String) : Action σ InsertionResult := do
  unless ← isOpen doc do return ← reject label "insert"
  match ← append doc code with
  | some operation => reject label operation
  | none => accept doc code label

end Action

end Inserting

end FencedChat
