import FencedChat.CommandLine.Command
import FencedChat.CommandLine.Report
import FencedChat.Provider.Setup
import FencedChat.Screen.StyledText
import FencedChat.Session

/-!
Running commands. A command sees its machine only through a host, so what it does is a function of
the command line and the host.
-/

namespace FencedChat

/-- What a command finds on the machine it runs on. -/
structure Host where
  /-- The file at a path. -/
  file? : String → Option FileContent
  /-- The text on the standard input. -/
  input : String
  /-- The provider to chat with, or why there is none. -/
  provider : Except SetupNotice Provider
  /-- How the service of the provider answers a call. -/
  client : Listing Value → Except CallError Value
  terminal : Terminal := .standard

namespace Command

def fileText (f : SourceFile) : Action String :=
  match f.content with
  | .text s => return plainNewlines s
  | .bytes _ => .raise (.document (.notText f.path))

/-- The message that a file holds, or the standard input if no file is given. -/
def messageText (h : Host) : Option SourceFile → Action String
  | some f => fileText f
  | none => return plainNewlines h.input

/-- The provider to chat with. What stands in its way is printed. -/
def setUp (h : Host) : Action (Option Provider) :=
  match h.provider with
  | .ok p => return some p
  | .error n => do
    Action.printTagged h.terminal n.markup
    return none

def printBlock (t : Terminal) (b : CodeBlock) : Action Unit :=
  let spans := (Highlighter.standard.spans b.code (some b.language)).value
  .printLines (t.panelLines ("[bold yellow]" ++ b.filename ++ "[/]")
    ("[dim]" ++ b.language ++ "[/]") (StyledText.ofSpans spans).plain)

def printPart (t : Terminal) : MessagePart → Action Unit
  | .prose s => .print t (.text (String.ofList s.plain))
  | .code b _ => printBlock t b

def logLevelNames : List String := LogLevel.all.map LogLevel.name

def runChat (h : Host) (file : Option SourceFile) (logLevel : Option String) : Action Unit := do
  if logLevel.any fun l => !logLevelNames.contains (lower l) then
    Action.printTagged h.terminal ("[red]Error: --log-level must be one of "
      ++ ", ".intercalate logLevelNames ++ "[/red]")
    throw (.status 1)
  let provider ← setUp h
  let document ← match file with
    | none => pure Document.closed
    | some f =>
      match Document.ofFileContent f.path f.content with
      | .ok d => pure d
      | .error e => .raise (.document e)
  Action.openScreen ⟨document.name, logLevel, provider.map (·.service.name)⟩
  if provider.isSome then Action.call .close
  Action.printTagged h.terminal "\n[dim]Goodbye![/dim]"

/-- Prints the answer to a question: the newest message if it is from the system, and otherwise the
parts of the reply. -/
def printAnswer (t : Terminal) (answer : Except AskError (List Segment))
    (newest : Option ChatMessage) : Action Unit :=
  match answer, newest with
  | .error e, _ => .raise (.request e)
  | .ok _, none => .raise .noAnswer
  | .ok segments, some m =>
    if m.role = .system then do
      Action.print t (.message m.content)
      throw (.status 1)
    else (MessagePart.group segments).forM (printPart t)

def runAsk (h : Host) (message : String) (model : Option String) : Action Unit := do
  let provider ← setUp h
  let sent := (ChatSession.start provider model).send message h.client
  sent.value.1.forM fun parameters => Action.call (.create parameters)
  if provider.isSome then Action.call .close
  printAnswer h.terminal sent.value.2 sent.session.messages.getLast?

def runRender (h : Host) (file : Option SourceFile) (active : Option String) : Action Unit := do
  let text ← messageText h file
  Action.print h.terminal (.raw (Html.message .standard text active).value)

def lineCount (code : String) : Nat :=
  if code = "" then 0 else code.toList.count '\n' + 1

def blockTable (blocks : List CodeBlock) : Console.Table where
  columns := [{ title := "#", width := some 3 }, { title := "File" }, { title := "Language" },
    { title := "Lines", alignRight := true }]
  rows := blocks.mapIdx fun i b =>
    [toString (i + 1), b.filename, b.language, toString (lineCount b.code)]

def runBlocks (h : Host) (file : Option SourceFile) (showCode : Bool) : Action Unit := do
  let text ← messageText h file
  let blocks := MessageReader.standard.blocks text
  if blocks.isEmpty then Action.printTagged h.terminal "[yellow]No code blocks found[/yellow]"
  else
    Action.printLines (h.terminal.tableLines (blockTable blocks))
    if showCode then blocks.forM (printBlock h.terminal)

/-- The tag to highlight a file by: the one that is asked for, unless it is empty, or the extension
of the file. -/
def tagOf (f : SourceFile) (language : Option String) : String :=
  match language with
  | none => f.path.extension
  | some l => if l = "" then f.path.extension else l

def runHighlight (h : Host) (f : SourceFile) (language : Option String) (format : OutputFormat) :
    Action Unit := do
  let tag := tagOf f language
  let code ← fileText f
  unless Highlighter.standard.registry.contains tag do
    Action.warnTagged h.terminal
      ("[yellow]No grammar for '" ++ tag ++ "', output is escaped only[/yellow]")
  match format with
  | .html => Action.print h.terminal (.raw (Highlighter.standard.render code (some tag)).value)
  | .text =>
    let spans := (Highlighter.standard.spans code (some tag)).value
    Action.print h.terminal (.text (String.ofList (StyledText.ofSpans spans).plain))

def grammarTable (grammars : List Grammar) : Console.Table where
  columns := [{ title := "Language" }, { title := "Aliases" }, { title := "Extension" }]
  rows := (grammars.mergeSort fun g g' => decide (g.name ≤ g'.name)).map fun g =>
    let aliases := (g.tags.filter (· ≠ g.name)).mergeSort fun s t => decide (s ≤ t)
    [g.name, ", ".intercalate aliases, "." ++ extensionOf (some g.name)]

def runLanguages (h : Host) : Action Unit := do
  let registry := Language.registry
  Action.printLines (h.terminal.tableLines (grammarTable registry.grammars))
  Action.printTagged h.terminal ("\n[dim]" ++ toString registry.size
    ++ " grammars; other tags are escaped without highlighting[/dim]")

def action (h : Host) : Command → Action Unit
  | chat file logLevel => runChat h file logLevel
  | ask message model => runAsk h message model
  | render file active => runRender h file active
  | blocks file showCode => runBlocks h file showCode
  | highlight file language format => runHighlight h file language format
  | languages => runLanguages h

def run (h : Host) (c : Command) : Report × Ending := (c.action h).report

end Command

end FencedChat
