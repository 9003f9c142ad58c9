import FencedChat.Screen.ChatView
import FencedChat.Screen.EditorPane
import FencedChat.Screen.InputBar
import FencedChat.Screen.LogPanel
import FencedChat.Screen.Toast

/-!
The chat screen: the chat, the editor, the input and the log, with the questions that wait for an
answer. Each step of the user is a function from screen to screen.
-/

namespace FencedChat

structure App where
  session : ChatSession
  disk : Disk
  editor : EditorPane
  chat : ChatView
  input : InputBar
  log : LogPanel
  /-- The documents that the user is asked about, by the names they had, the last question first. -/
  questions : List (Option String)
  isMaximized : Bool
  /-- Whether there is a system clipboard. -/
  hasClipboard : Bool
  toasts : List Toast
  copied : List String
  /-- The code blocks that are shown but not drawn yet. -/
  undrawn : List CodeBlock

namespace App

def welcomeText : String :=
  "\n".intercalate
    ["Welcome to Codepane!", "", "Ask for code; every fenced block in a reply gets its own",
     "`Add to File` and `Copy` buttons.", "",
     "Send with `Ctrl+J`. Save the open file with `Ctrl+S`."]

def subtitle (a : App) : String :=
  match a.session.provider with
  | some p => p.service.name ++ " | " ++ p.model
  | none => "no API key"

def logAll (a : App) (entries : List LogEntry) : App := { a with log := a.log.addAll entries }

def logOwn (a : App) (level : LogLevel) (message : String) : App :=
  a.logAll [⟨level, "TUI", message⟩]

def toast (a : App) (t : Toast) : App := { a with toasts := a.toasts ++ [t] }

def showMessage (a : App) (m : ChatMessage) : App :=
  let segments := a.session.parse m.content
  { a.logAll segments.log with
    chat := a.chat.add m segments.value
    undrawn := a.undrawn ++ Segment.blocks segments.value }

def followEvent (a : App) : SessionEvent → App
  | .added m => a.showMessage m
  | .removed m => { a with chat := a.chat.remove m.id }
  | .cleared => { a with chat := a.chat.clear }

def follow {α : Type} (a : App) (s : SessionStep α) : App :=
  s.events.foldl followEvent { a with session := s.session }

def draw (a : App) : App :=
  let log := a.undrawn.flatMap fun b =>
    (a.session.reader.highlighter.spans b.code (some b.language)).log
  { a.logAll log with undrawn := [] }

/-- Lets all that is under way come to an end. -/
def settle (a : App) : App := { a.draw with editor := a.editor.settle }

def openingLog : Option String → LogPanel
  | none => .hidden
  | some name =>
    let level := LogLevel.ofText name
    ({ LogPanel.hidden with threshold := level }.setShown true).add
      ⟨.info, "TUI", "Log panel enabled at " ++ level.title⟩

def start (session : ChatSession) (disk : Disk) (document : Document) (logLevel : Option String)
    (hasClipboard : Bool) : App :=
  let a : App := ⟨session, disk, .ofDocument document, .empty document.name, .empty,
    openingLog logLevel, [], false, hasClipboard, [], [], []⟩
  let a := session.messages.foldl showMessage a
  a.follow (session.add .assistant welcomeText false)

def excerpt (s : String) : String := String.ofList (s.toList.take 50)

def beginSend (a : App) (text : String) : App × Begun :=
  let begun := a.session.begin text
  let a := (a.logOwn .info ("Sending: '" ++ excerpt text ++ "'")).follow begun
  (a.logAll begun.log, begun.value)

def finishSend (a : App) (t : Ticket) (outcome : Except AskError String) : App :=
  let done := a.session.finish t outcome
  let a := (a.logAll done.log).follow done
  match done.value with
  | .ok _ => a
  | .error e =>
    let a := a.logOwn .error ("Send failed: " ++ e.text)
    let a := a.follow (a.session.add .system ("Error: " ++ e.text) false)
    a.toast (.failed ("Error: " ++ excerpt e.text))

def send (a : App) (text : String) (client : Listing Value → Except CallError Value) : App :=
  match a.beginSend text with
  | (a, .waiting t parameters) => a.finishSend t (a.session.answerOf (client parameters))
  | (a, _) => a

def submit (a : App) (client : Listing Value → Except CallError Value) : App :=
  match a.input.submit with
  | (none, input) => { a with input := input }
  | (some text, input) => { a with input := input }.send text client

def clearChat (a : App) : App := (a.follow a.session.clear).toast (.told "Chat cleared")

def setDocument (a : App) (d : Document) : App :=
  { a with editor := a.editor.setDocument d, chat := a.chat.setActive d.name }

def openFile (a : App) (p : DiskPath) : Except DocumentError App := do
  let d ← Document.ofFile a.disk p
  return (a.logOwn .info ("Opened " ++ p.text)).setDocument d

def addBlock (a : App) (b : CodeBlock) : App :=
  let (editor, i) := a.editor.insertBlock b
  i.notices.foldl (fun a n => a.toast (.ofNotice n)) { a.logAll i.log with editor := editor }

def saveError (a : App) : DocumentError → App
  | .notOpen operation => a.toast (.failed ((Fault.noActiveDocument operation).detail.getD ""))
  | e =>
    (a.logOwn .error ("Save failed: " ++ e.message)).toast
      (.failed ("Could not save " ++ a.editor.document.name.getD "None" ++ ": " ++ e.message))

def save (a : App) : App :=
  match a.editor.document.save a.disk with
  | .error e => a.saveError e
  | .ok (saved, d, disk) =>
    { a with disk := disk, editor := { a.editor with document := d } }.toast
      (if saved then .ofNotice ⟨.success, "Saved " ++ d.name.getD "None"⟩
        else .told "No changes to save")

def discard (a : App) : App :=
  (a.logOwn .info ("Closed " ++ a.editor.document.name.getD "None")).setDocument .closed

/-- Closes the document, or asks first if it has unsaved changes. -/
def close (a : App) : App :=
  if !a.editor.document.isOpen then a.toast (.told "No file is open")
  else if a.editor.document.isDirty then
    { a with questions := a.editor.document.name :: a.questions }
  else a.discard

def question? (a : App) : Option String :=
  a.questions.head?.map fun name => name.getD "" ++ " has unsaved changes. Close it anyway?"

/-- Answers the question on top. Whether the changes are discarded depends on the answer alone, and
what is discarded is the document that is open now. -/
def answer (a : App) (yes : Bool) : App :=
  match a.questions with
  | [] => a
  | _ :: rest =>
    let a := { a with questions := rest }
    if yes then a.discard else a

def toggleLog (a : App) : App :=
  let log := a.log.toggle
  { a with log := log }.toast
    (.told (if log.isShown then "Log panel shown" else "Log panel hidden"))

def toggleMaximized (a : App) : App := { a with isMaximized := !a.isMaximized }

def copy (a : App) (text what : String) : App :=
  { a with copied := a.copied ++ [text] }.toast
    (.told (what ++ (if a.hasClipboard then " copied" else " copied (terminal)")))

def copyBlock (a : App) (b : CodeBlock) : App := a.copy b.code b.filename

def copyMessage (a : App) (m : ChatMessage) : App := a.copy m.content "Message"

def copyLog (a : App) : App :=
  match a.log.text? with
  | none => a.toast (.told "Log is empty")
  | some text => a.copy text "Log"

def pressInInput (a : App) (key : String) (client : Listing Value → Except CallError Value) : App :=
  match key with
  | "ctrl+j" => a.submit client
  | "up" => { a with input := a.input.up }
  | "down" => { a with input := a.input.down }
  | "ctrl+b" => a.toggleMaximized
  | _ =>
    match key.toList with
    | [c] => { a with input := a.input.type c }
    | _ => a

def pressInQuestion (a : App) (key : String) : App :=
  match key with
  | "y" => a.answer true
  | "n" => a.answer false
  | "escape" => a.answer false
  | _ => a

/-- Presses a key. Some keys work everywhere, and the others go to the question on top or else to
the input. -/
def press (a : App) (key : String) (client : Listing Value → Except CallError Value) : App :=
  match key with
  | "ctrl+s" => a.save
  | "ctrl+w" => a.close
  | "ctrl+k" => a.clearChat
  | "ctrl+d" => a.toggleLog
  | _ => if a.questions.isEmpty then a.pressInInput key client else a.pressInQuestion key

end App

end FencedChat
