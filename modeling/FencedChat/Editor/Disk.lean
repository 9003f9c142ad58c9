import FencedChat.Editor.DiskPath
import FencedChat.Text.Quoted

/-!
Files and directories, and what reading and writing them does.
-/

namespace FencedChat

inductive FileContent
  | text (s : String)
  | bytes (bs : List UInt8)
  deriving DecidableEq, Repr

def FileContent.ofBytes (bs : List UInt8) : FileContent :=
  match String.fromUTF8? ⟨bs.toArray⟩ with
  | some s => .text s
  | none => .bytes bs

inductive DiskNode
  | directory
  | file (content : FileContent)
  deriving DecidableEq, Repr

inductive DiskError
  | noSuchFile
  | notADirectory
  | isADirectory
  | nameTooLong
  /-- The path holds the character that ends a path. -/
  | nulCharacter
  deriving DecidableEq, Repr

namespace DiskError

def message (path : DiskPath) : DiskError → String
  | noSuchFile => "[Errno 2] No such file or directory: " ++ quoted path.text
  | notADirectory => "[Errno 20] Not a directory: " ++ quoted path.text
  | isADirectory => "[Errno 21] Is a directory: " ++ quoted path.text
  | nameTooLong => "[Errno 36] File name too long: " ++ quoted path.text
  | nulCharacter => "embedded null byte"

end DiskError

/-- A disk: what stands at each place. A place is the names that lead to it from the top of the
disk. -/
structure Disk where
  /-- The place of the directory that a path starts from unless it starts at the top. -/
  workingDirectory : List String
  nodes : List (List String × DiskNode)
  deriving DecidableEq, Repr

namespace Disk

def empty : Disk := ⟨["tmp", "work"], []⟩

/-- What stands at a place. The working directory and those that lead to it are always there. -/
def node? (d : Disk) (place : List String) : Option DiskNode :=
  if place <+: d.workingDirectory then some .directory else d.nodes.lookup place

def putNode (place : List String) (n : DiskNode) :
    List (List String × DiskNode) → List (List String × DiskNode)
  | [] => [(place, n)]
  | (p, m) :: rest => if p = place then (place, n) :: rest else (p, m) :: putNode place n rest

def put (d : Disk) (place : List String) (n : DiskNode) : Disk :=
  { d with nodes := putNode place n d.nodes }

def addDirectory (d : Disk) (place : List String) : Disk :=
  (List.range place.length).foldl (fun d i => d.put (place.take (i + 1)) .directory) d

/-- The disk with one more node below the working directory, in directories that are made for it. -/
def add (d : Disk) (path : String) (n : DiskNode) : Disk :=
  let place := d.workingDirectory ++ (DiskPath.ofText path).parts
  (d.addDirectory place.dropLast).put place n

def maxNameLength : Nat := 255

def maxPathLength : Nat := 4095

/-- The place that a part leads to from a directory. Nothing is above the top. -/
def step (place : List String) (part : String) : List String :=
  if part = ".." then place.dropLast else place ++ [part]

/-- The place that further parts lead to from a place. Every place on the way has to be a
directory. -/
def walk (d : Disk) (place : List String) : List String → Except DiskError (List String)
  | [] => .ok place
  | part :: parts =>
    match d.node? place with
    | none => .error .noSuchFile
    | some (.file _) => .error .notADirectory
    | some .directory =>
      if maxNameLength < part.utf8ByteSize then .error .nameTooLong
      else d.walk (step place part) parts

def origin (d : Disk) (p : DiskPath) : List String :=
  if p.root = "" then d.workingDirectory else []

def place (d : Disk) (p : DiskPath) : Except DiskError (List String) :=
  if p.text.toList.contains '\x00' then .error .nulCharacter
  else if maxPathLength < p.text.utf8ByteSize then .error .nameTooLong
  else d.walk (d.origin p) p.parts

def read (d : Disk) (p : DiskPath) : Except DiskError FileContent :=
  match d.place p with
  | .error e => .error e
  | .ok place =>
    match d.node? place with
    | none => .error .noSuchFile
    | some .directory => .error .isADirectory
    | some (.file c) => .ok c

/-- The content of the file that a text names. A text that ends in a separator names no file. -/
def fileNamed? (d : Disk) (text : String) : Option FileContent :=
  match (text.splitOn "/").getLast? with
  | some last => if last = "" || last = "." then none else (d.read (.ofText text)).toOption
  | none => none

/-- Writes a text to a file, which is made if need be. -/
def write (d : Disk) (p : DiskPath) (s : String) : Except DiskError Disk :=
  match d.place p with
  | .error e => .error e
  | .ok place =>
    match d.node? place with
    | some .directory => .error .isADirectory
    | _ => .ok (d.put place (.file (.text s)))

def files (d : Disk) : List (String × FileContent) :=
  d.nodes.filterMap fun (place, n) =>
    match n with
    | .file c =>
      if d.workingDirectory <+: place then
        some ("/".intercalate (place.drop d.workingDirectory.length), c)
      else none
    | .directory => none

end Disk

end FencedChat
