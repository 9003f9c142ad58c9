import FencedChat.CommandLine.Arguments
import FencedChat.Editor.Disk

/-!
The commands and how they are read from a command line. Files are looked up while reading, so that a
command holds the files it works on.
-/

namespace FencedChat

structure SourceFile where
  path : DiskPath
  content : FileContent
  deriving DecidableEq, Repr

inductive OutputFormat
  | html
  | text
  deriving DecidableEq, Repr

inductive Command
  /-- Chat beside an editor. -/
  | chat (file : Option SourceFile) (logLevel : Option String)
  /-- Send one message and print the answer. -/
  | ask (message : String) (model : Option String)
  /-- Render a message to HTML. -/
  | render (file : Option SourceFile) (active : Option String)
  /-- List the code blocks of a message. -/
  | blocks (file : Option SourceFile) (showCode : Bool)
  /-- Highlight a source file. -/
  | highlight (file : SourceFile) (language : Option String) (format : OutputFormat)
  /-- List the known languages. -/
  | languages
  deriving DecidableEq, Repr

namespace Command

def format : Option String → Except UsageError OutputFormat
  | none => .ok .text
  | some "html" => .ok .html
  | some "text" => .ok .text
  | some other => .error (.unknownFormat other)

def sourceFile (file? : String → Option FileContent) (path : String) :
    Except UsageError SourceFile :=
  match file? path with
  | some content => .ok ⟨.ofText path, content⟩
  | none => .error (.notAFile path)

def optionalFile (file? : String → Option FileContent) (a : Arguments) :
    Except UsageError (Option SourceFile) := do
  match ← a.operand? with
  | none => return none
  | some path => return some (← sourceFile file? path)

def readNamed (file? : String → Option FileContent) (name : String) (args : List String) :
    Except UsageError Command :=
  match name with
  | "chat" => do
    let a ← Arguments.read [⟨'l', "log-level", true⟩] args
    return chat (← optionalFile file? a) (a.value? 'l')
  | "ask" => do
    let a ← Arguments.read [⟨'m', "model", true⟩] args
    return ask (← a.operand "MESSAGE") (a.value? 'm')
  | "render" => do
    let a ← Arguments.read [⟨'a', "active", true⟩] args
    return render (← optionalFile file? a) (a.value? 'a')
  | "blocks" => do
    let a ← Arguments.read [⟨'c', "code", false⟩] args
    return blocks (← optionalFile file? a) (a.value? 'c').isSome
  | "highlight" => do
    let a ← Arguments.read [⟨'L', "language", true⟩, ⟨'f', "format", true⟩] args
    let file ← sourceFile file? (← a.operand "FILE")
    return highlight file (a.value? 'L') (← format (a.value? 'f'))
  | "languages" => do
    let a ← Arguments.read [] args
    match a.operands with
    | [] => return languages
    | s :: _ => throw (.unwantedOperand s)
  | _ => throw (.unknownCommand name)

/-- Reads a command line. A double dash before the command is passed over. -/
def read (file? : String → Option FileContent) : List String → Except UsageError Command
  | [] => .error .missingCommand
  | "--" :: [] => .error .missingCommand
  | "--" :: name :: args => readNamed file? name args
  | name :: args => readNamed file? name args

end Command

end FencedChat
