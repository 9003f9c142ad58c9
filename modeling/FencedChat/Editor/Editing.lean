import FencedChat.Editor.Insertion

/-!
Editing: the actions on the document as it is kept, in fields that are assigned one after the other.
An action that fails keeps what it did before it failed.
-/

namespace FencedChat

/-- The fields that the document is kept in. There is no name while no document is open. -/
structure DocumentFields where
  name : Option String
  path : Option DiskPath
  content : String
  /-- The content as it was last loaded or saved. -/
  snapshot : String
  dirty : Bool
  deriving DecidableEq, Repr

namespace DocumentFields

def closed : DocumentFields := ⟨none, none, "", "", false⟩

def isOpen (d : DocumentFields) : Bool := d.name.isSome

end DocumentFields

def Document.fields : Document → DocumentFields
  | closed => .closed
  | opened b => ⟨some b.name, b.path, b.content, b.snapshot, b.dirty⟩

/-- What the system does with files. It may refuse for reasons of its own, and a refused write may
have changed the disk. -/
structure FileSystem where
  isFile : DiskPath → Disk → Except DiskError Bool
  read : DiskPath → Disk → Except DiskError FileContent
  write : DiskPath → String → EStateM DiskError Disk Unit

namespace FileSystem

/-- The system that refuses only what the disk cannot do. Of the reasons why a path leads to no
file, only a name that is too long is an error of its own. -/
def usual : FileSystem where
  isFile p d :=
    match d.read p with
    | .ok _ => .ok true
    | .error .nameTooLong => .error .nameTooLong
    | .error _ => .ok false
  read p d := d.read p
  write p s d :=
    match d.write p s with
    | .ok d => .ok () d
    | .error e => .error e d

end FileSystem

/-- The document, the disk, and what was shown and logged so far. -/
structure Editing where
  document : DocumentFields
  disk : Disk
  notices : List Notice
  log : List LogEntry
  deriving DecidableEq, Repr

namespace Editing

def start (disk : Disk) : Editing := ⟨.closed, disk, [], []⟩

abbrev Action := EStateM DocumentError Editing

namespace Action

variable {α : Type}

/-- Takes over what the system answers about a path. -/
def ofSystem (p : DiskPath) : Except DiskError α → Action α
  | .ok a => return a
  | .error e => throw (.onDisk e p)

def setName (name : Option String) : Action Unit :=
  modify fun s => { s with document := { s.document with name := name } }

def setPath (path : Option DiskPath) : Action Unit :=
  modify fun s => { s with document := { s.document with path := path } }

def setText (content : String) : Action Unit :=
  modify fun s => { s with document := { s.document with content := content } }

def setSnapshot (snapshot : String) : Action Unit :=
  modify fun s => { s with document := { s.document with snapshot := snapshot } }

def setDirty (dirty : Bool) : Action Unit :=
  modify fun s => { s with document := { s.document with dirty := dirty } }

def document : Action DocumentFields := return (← get).document

def requireOpen (operation : String) : Action Unit := do
  unless (← document).isOpen do throw (.notOpen operation)

def load (name content : String) (path : Option DiskPath) : Action Unit := do
  setName (some name)
  setPath path
  setText content
  setSnapshot content
  setDirty false

def close : Action Unit := do
  setName none
  setPath none
  setText ""
  setSnapshot ""
  setDirty false

/-- The text of a file. Line ends become newlines. -/
def readText (system : FileSystem) (p : DiskPath) : Action String := do
  match ← ofSystem p (system.read p (← get).disk) with
  | .bytes _ => throw (.notText p)
  | .text s => return plainNewlines s

def writeText (system : FileSystem) (p : DiskPath) (s : String) : Action Unit := fun e =>
  match system.write p s e.disk with
  | .ok _ disk => .ok () { e with disk := disk }
  | .error error disk => .error (.onDisk error p) { e with disk := disk }

def loadFile (system : FileSystem) (p : DiskPath) : Action Unit := do
  unless ← ofSystem p (system.isFile p (← get).disk) do throw (.notFound p)
  load p.name (← readText system p) (some p)

def content : Action String := do
  requireOpen "get_content"
  return (← document).content

/-- Puts another content into the document. It is dirty if that differs from the snapshot. -/
def setContent (s : String) : Action Unit := do
  requireOpen "set_content"
  setText s
  setDirty (s != (← document).snapshot)

/-- Writes the content where the document comes from, if it is dirty. Gives whether there was
anything to save. -/
def save (system : FileSystem) : Action Bool := do
  requireOpen "save"
  if (← document).dirty then
    match (← document).path with
    | some p => writeText system p (← document).content
    | none => pure ()
    setSnapshot (← document).content
    setDirty false
    return true
  else return false

def report (i : Insertion Unit) : Action InsertionResult := do
  modify fun s => { s with notices := s.notices ++ i.notices, log := s.log ++ i.log }
  return i.result

/-- Appends code to the content. Gives whether the document took it. -/
def append (code : String) : Action Bool :=
  try
    let current ← content
    setContent (current ++ Insertion.separator ++ code)
    pure true
  catch
    | .notOpen _ => pure false
    | e => throw e

/-- Inserts code. The label names where the code came from. -/
def insert (code label : String) : Action InsertionResult := do
  if (← document).isOpen then
    if ← append code then
      report (.accepted () (← document).name code label)
    else report (.rejected () label)
  else report (.rejected () label)

def insertBlock (b : CodeBlock) : Action InsertionResult := insert b.code b.filename

def insertBlocks : List CodeBlock → Action (List InsertionResult)
  | [] => return []
  | b :: bs => return (← insertBlock b) :: (← insertBlocks bs)

end Action

end Editing

end FencedChat
