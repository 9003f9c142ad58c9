import FencedChat.Editor.Insertion

/-!
Toasts: short messages that go away by themselves.
-/

namespace FencedChat

inductive Severity
  | information
  | error
  deriving DecidableEq, Repr

def Severity.name : Severity → String
  | information => "information"
  | error => "error"

structure Toast where
  message : String
  title : String
  severity : Severity
  /-- The time for which the toast is shown, in seconds. -/
  seconds : Nat
  deriving DecidableEq, Repr

namespace Toast

def shortTime : Nat := 2

def longTime : Nat := 5

def told (message : String) : Toast := ⟨message, "", .information, shortTime⟩

def failed (message : String) : Toast := ⟨message, "", .error, longTime⟩

def ofNotice (n : Notice) : Toast :=
  match n.level with
  | .info => told n.message
  | .success => ⟨n.message, "Success", .information, shortTime⟩
  | .error => failed n.message

end Toast

end FencedChat
