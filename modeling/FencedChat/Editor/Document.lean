import FencedChat.Editor.Disk
import FencedChat.Fault
import FencedChat.Text.Lines

/-!
The document of the editor. It is closed, or it holds the content being edited together with the
content that was last loaded or saved.
-/

namespace FencedChat

structure Buffer where
  name : String
  /-- Where saving writes to. -/
  path : Option DiskPath
  content : String
  /-- The content as it was last loaded or saved. -/
  snapshot : String
  dirty : Bool
  deriving DecidableEq, Repr

inductive Document
  | closed
  | opened (b : Buffer)
  deriving DecidableEq, Repr

inductive DocumentError
  | notOpen (operation : String)
  | notFound (path : DiskPath)
  | notText (path : DiskPath)
  | onDisk (error : DiskError) (path : DiskPath)
  deriving DecidableEq, Repr

def DocumentError.message : DocumentError → String
  | notOpen operation => (Fault.noActiveDocument operation).message
  | notFound path => "File not found: " ++ path.text
  | notText path => path.text ++ " is not UTF-8 text"
  | onDisk e path => e.message path

namespace Document

def ofContent (name content : String) (path : Option DiskPath) : Document :=
  .opened ⟨name, path, content, content, false⟩

/-- The document of the content of a file. Line ends become newlines. -/
def ofFileContent (path : DiskPath) : FileContent → Except DocumentError Document
  | .bytes _ => .error (.notText path)
  | .text s => .ok (ofContent path.name (plainNewlines s) (some path))

/-- The document of a file. A name that is too long is told apart from a file that does not
exist. -/
def ofFile (d : Disk) (path : DiskPath) : Except DocumentError Document :=
  match d.read path with
  | .ok c => ofFileContent path c
  | .error .nameTooLong => .error (.onDisk .nameTooLong path)
  | .error _ => .error (.notFound path)

def isOpen : Document → Bool
  | closed => false
  | opened _ => true

def name : Document → Option String
  | closed => none
  | opened b => some b.name

def path : Document → Option DiskPath
  | closed => none
  | opened b => b.path

def isDirty : Document → Bool
  | closed => false
  | opened b => b.dirty

def snapshot : Document → String
  | closed => ""
  | opened b => b.snapshot

def content : Document → String
  | closed => ""
  | opened b => b.content

def content? : Document → Except DocumentError String
  | closed => .error (.notOpen "get_content")
  | opened b => .ok b.content

def setContent (s : String) : Document → Except DocumentError Document
  | closed => .error (.notOpen "set_content")
  | opened b => .ok (.opened { b with content := s, dirty := s != b.snapshot })

/-- Writes the content where the document comes from, if it is dirty. Gives whether there was
anything to save. -/
def save (d : Disk) : Document → Except DocumentError (Bool × Document × Disk)
  | closed => .error (.notOpen "save")
  | opened b =>
    if b.dirty then
      let saved := opened { b with snapshot := b.content, dirty := false }
      match b.path with
      | none => .ok (true, saved, d)
      | some p =>
        match d.write p b.content with
        | .ok d => .ok (true, saved, d)
        | .error e => .error (.onDisk e p)
    else .ok (false, opened b, d)

end Document

end FencedChat
