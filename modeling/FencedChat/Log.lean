import FencedChat.Text.Blank
import FencedChat.Text.Case

/-!
Log entries, and values that come with the entries made on the way to them.
-/

namespace FencedChat

inductive LogLevel
  | debug
  | info
  | warning
  | error
  deriving DecidableEq, Repr, Inhabited

namespace LogLevel

def name : LogLevel → String
  | debug => "debug"
  | info => "info"
  | warning => "warning"
  | error => "error"

def title : LogLevel → String
  | debug => "DEBUG"
  | info => "INFO"
  | warning => "WARNING"
  | error => "ERROR"

def number : LogLevel → Nat
  | debug => 10
  | info => 20
  | warning => 30
  | error => 40

def all : List LogLevel := [debug, info, warning, error]

/-- The level of a name, whatever its case and the blanks around it. Other names mean `debug`. -/
def ofText (s : String) : LogLevel :=
  (all.find? fun l => l.title == asciiUpper (trim s)).getD debug

@[simp] theorem ofText_name (l : LogLevel) : ofText l.name = l := by cases l <;> decide

end LogLevel

structure LogEntry where
  level : LogLevel
  component : String
  message : String
  deriving DecidableEq, Repr

structure Logged (α : Type) where
  value : α
  log : List LogEntry
  deriving Repr

namespace Logged

instance : Monad Logged where
  pure a := ⟨a, []⟩
  map f x := ⟨f x.value, x.log⟩
  bind x f :=
    let y := f x.value
    ⟨y.value, x.log ++ y.log⟩

def entry (level : LogLevel) (component message : String) : Logged Unit :=
  ⟨(), [⟨level, component, message⟩]⟩

variable {α β : Type}

@[simp] theorem value_pure (a : α) : (pure a : Logged α).value = a := rfl

@[simp] theorem log_pure (a : α) : (pure a : Logged α).log = [] := rfl

@[simp] theorem value_bind (x : Logged α) (f : α → Logged β) :
    (x >>= f).value = (f x.value).value := rfl

@[simp] theorem log_bind (x : Logged α) (f : α → Logged β) :
    (x >>= f).log = x.log ++ (f x.value).log := rfl

@[simp] theorem value_map (f : α → β) (x : Logged α) : (f <$> x).value = f x.value := rfl

@[simp] theorem log_map (f : α → β) (x : Logged α) : (f <$> x).log = x.log := rfl

end Logged

end FencedChat
