import FencedChat.Editor.Document
import FencedChat.Log
import FencedChat.Message.Segment

/-!
Insertion of code into a document. The code goes to the end, behind one blank line, and nothing is
saved. Each insertion counts, also one of the same code.
-/

namespace FencedChat

inductive NoticeLevel
  | info
  | success
  | error
  deriving DecidableEq, Repr

def NoticeLevel.name : NoticeLevel → String
  | info => "info"
  | success => "success"
  | error => "error"

structure Notice where
  level : NoticeLevel
  message : String
  deriving DecidableEq, Repr

/-- An edit was refused because no document is open. -/
structure Refusal where
  operation : String
  deriving DecidableEq, Repr

/-- What an insertion needs of a document. -/
structure ActiveDocument (σ : Type) where
  isOpen : σ → Bool
  name : σ → Option String
  content : σ → Except Refusal String
  setContent : String → σ → Except Refusal σ

inductive InsertionStatus
  | inserted
  | noActiveDocument
  deriving DecidableEq, Repr

def InsertionStatus.name : InsertionStatus → String
  | inserted => "inserted"
  | noActiveDocument => "no_active_document"

structure InsertionResult where
  status : InsertionStatus
  /-- Where the code came from. -/
  label : String
  message : String
  /-- The document that received the code. -/
  document : Option String
  deriving DecidableEq, Repr

def InsertionResult.ok (r : InsertionResult) : Bool := r.status = .inserted

structure Insertion (σ : Type) where
  document : σ
  result : InsertionResult
  notices : List Notice
  log : List LogEntry

namespace Insertion

variable {σ : Type}

/-- What stands between the content and the code inserted behind it. -/
def separator : String := "\n\n"

def rejected (s : σ) (label : String) : Insertion σ :=
  let message := Fault.noActiveDocumentText
  ⟨s, ⟨.noActiveDocument, label, message, none⟩, [⟨.error, message⟩],
    [⟨.warning, "Insert", "[NO_ACTIVE_DOCUMENT] " ++ label ++ " not inserted"⟩]⟩

def accepted (s : σ) (name : Option String) (code label : String) : Insertion σ :=
  let message := "Code from " ++ label ++ " added to current file. Don't forget to save!"
  ⟨s, ⟨.inserted, label, message, name⟩, [⟨.success, message⟩],
    [⟨.info, "Insert", "Appended " ++ toString code.length ++ " chars from " ++ label ++ " to "
      ++ name.getD "None"⟩]⟩

/-- Inserts code into a document. The label names where the code came from. -/
def run (doc : ActiveDocument σ) (s : σ) (code label : String) : Insertion σ :=
  if doc.isOpen s then
    match doc.content s with
    | .error _ => rejected s label
    | .ok current =>
      match doc.setContent (current ++ separator ++ code) s with
      | .error _ => rejected s label
      | .ok t => accepted t (doc.name t) code label
  else rejected s label

end Insertion

namespace Document

private def refusable {α : Type} (operation : String) : Except DocumentError α → Except Refusal α
  | .ok a => .ok a
  | .error (.notOpen operation) => .error ⟨operation⟩
  | .error _ => .error ⟨operation⟩

def active : ActiveDocument Document where
  isOpen := isOpen
  name := name
  content d := refusable "get_content" d.content?
  setContent s d := refusable "set_content" (d.setContent s)

def insert (d : Document) (code label : String) : Insertion Document :=
  Insertion.run active d code label

def insertBlock (d : Document) (b : CodeBlock) : Insertion Document := d.insert b.code b.filename

def insertBlocks (d : Document) : List CodeBlock → Document × List (Insertion Document)
  | [] => (d, [])
  | b :: bs =>
    let i := d.insertBlock b
    let (d, is) := i.document.insertBlocks bs
    (d, i :: is)

end Document

end FencedChat
