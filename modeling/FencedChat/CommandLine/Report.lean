import FencedChat.Console.Terminal
import FencedChat.Editor.Document
import FencedChat.Provider.Basic

/-!
What a command leaves behind: what it prints, the calls it makes, and how it ends.
-/

namespace FencedChat

structure ChatScreen where
  document : Option String
  logLevel : Option String
  provider : Option String
  deriving DecidableEq, Repr

structure Report where
  output : String := ""
  errors : String := ""
  calls : List ClientCall := []
  screens : List ChatScreen := []

inductive CommandError
  | document (e : DocumentError)
  /-- There is no answer to print. -/
  | noAnswer
  | request (e : AskError)
  | tag (e : StyleTag.TagError)

inductive Ending
  | status (code : Nat)
  | raised (e : CommandError)

def Ending.code : Ending → Nat
  | status code => code
  | raised _ => 1

abbrev Action := ExceptT Ending (StateM Report)

namespace Action

def write (s : String) : Action Unit := modify fun r => { r with output := r.output ++ s }

def warn (s : String) : Action Unit := modify fun r => { r with errors := r.errors ++ s }

def call (c : ClientCall) : Action Unit := modify fun r => { r with calls := r.calls ++ [c] }

def openScreen (s : ChatScreen) : Action Unit :=
  modify fun r => { r with screens := r.screens ++ [s] }

def raise {α : Type} (e : CommandError) : Action α := throw (.raised e)

def print (t : Terminal) (d : Drawing) : Action Unit := write (Console.unlines (t.draw d))

def ofTagged {α : Type} : Except StyleTag.TagError α → Action α
  | .ok a => return a
  | .error e => raise (.tag e)

def printTagged (t : Terminal) (s : String) : Action Unit := do
  print t (.text (← ofTagged (t.shown s)))

def warnTagged (t : Terminal) (s : String) : Action Unit := do
  warn (Console.unlines (t.draw (.text (← ofTagged (t.shown s)))))

def printLines (lines : Except StyleTag.TagError (List (List Char))) : Action Unit := do
  write (Console.unlines (← ofTagged lines))

def report (a : Action Unit) : Report × Ending :=
  match a.run.run {} with
  | (.ok (), r) => (r, .status 0)
  | (.error e, r) => (r, e)

end Action

end FencedChat
