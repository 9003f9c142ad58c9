import FencedChat.Console.Layout
import FencedChat.Log

/-!
The log panel. It takes the entries that reach its threshold, also while it is hidden.
-/

namespace FencedChat

structure LogPanel where
  threshold : LogLevel
  isShown : Bool
  /-- Whether the panel was shown before. Until then its lines are not laid out. -/
  wasShown : Bool
  /-- The entries taken, without their times. -/
  entries : List String
  deriving DecidableEq, Repr

namespace LogPanel

def maxMessageLength : Nat := 500

def timeWidth : Nat := 9

def hidden : LogPanel := ⟨.debug, false, false, []⟩

def shorten (message : String) : String :=
  if maxMessageLength < message.length then
    String.ofList (message.toList.take maxMessageLength) ++ "..."
  else message

/-- An entry as text: its level, filled up to eight places, its component and its message. -/
def entryText (e : LogEntry) : String :=
  let level := e.level.title.toList
  String.ofList
    (level ++ List.replicate (8 - level.length) ' ' ++ '[' :: showable e.component.toList
    ++ [']', ' '] ++ showable (shorten e.message).toList)

def add (p : LogPanel) (e : LogEntry) : LogPanel :=
  if e.level.number < p.threshold.number then p
  else { p with entries := p.entries ++ [entryText e] }

def addAll (p : LogPanel) (log : List LogEntry) : LogPanel := log.foldl add p

def setShown (p : LogPanel) (shown : Bool) : LogPanel :=
  { p with isShown := shown, wasShown := p.wasShown || shown }

def toggle (p : LogPanel) : LogPanel := p.setShown !p.isShown

def subtitle (p : LogPanel) : String :=
  if p.isShown then "Level: " ++ p.threshold.title else "Hidden"

/-- The lines that an entry takes up. Its time stands in the first one. -/
def entryLines (entry : String) : List (List Char) :=
  match entry.splitOn "\n" with
  | [] => []
  | l :: ls =>
    Console.expandTabs timeWidth l.toList :: ls.map fun l => Console.expandTabs 0 l.toList

def text? (p : LogPanel) : Option String :=
  if p.wasShown && !p.entries.isEmpty then
    some ("\n".intercalate ((p.entries.flatMap entryLines).map String.ofList))
  else none

end LogPanel

end FencedChat
