/-!
Arguments of a command: options with a letter and a name, and operands. Options may stand anywhere
before a double dash.
-/

namespace FencedChat

structure OptionRule where
  letter : Char
  name : String
  takesValue : Bool

inductive UsageError
  | missingCommand
  | unknownCommand (name : String)
  | unknownOption (name : String)
  | missingValue (name : String)
  | unwantedValue (name : String)
  | missingOperand (name : String)
  | unwantedOperand (text : String)
  | notAFile (path : String)
  | unknownFormat (name : String)
  deriving DecidableEq, Repr

def UsageError.message : UsageError → String
  | missingCommand => "Missing command."
  | unknownCommand name => "No such command '" ++ name ++ "'."
  | unknownOption name => "No such option: " ++ name
  | missingValue name => "Option '" ++ name ++ "' requires an argument."
  | unwantedValue name => "Option '" ++ name ++ "' does not take a value."
  | missingOperand name => "Missing argument '" ++ name ++ "'."
  | unwantedOperand text => "Got unexpected extra argument (" ++ text ++ ")"
  | notAFile path => "File '" ++ path ++ "' does not exist or is no file."
  | unknownFormat name => "'" ++ name ++ "' is not one of 'html', 'text'."

structure Arguments where
  options : List (Char × String)
  operands : List String
  deriving DecidableEq, Repr

inductive Argument
  | operand
  | endOfOptions
  /-- Options, and the one that takes its value from the next argument. -/
  | options (given : List (Char × String)) (waiting : Option Char)

namespace Argument

/-- An argument of one dash and the letters of options. The rest of the argument behind the letter
of an option that takes a value is that value. -/
def ofLetters (rules : List OptionRule) : List Char → Except UsageError Argument
  | [] => .ok (.options [] none)
  | c :: r =>
    match rules.find? (·.letter = c) with
    | none => .error (.unknownOption (String.ofList ['-', c]))
    | some rule =>
      if rule.takesValue then
        .ok (if r.isEmpty then .options [] (some c) else .options [(c, String.ofList r)] none)
      else
        match ofLetters rules r with
        | .ok (.options given waiting) => .ok (.options ((c, "") :: given) waiting)
        | other => other

def ofName (rules : List OptionRule) (s : List Char) : Except UsageError Argument :=
  let name := String.ofList (s.takeWhile (· ≠ '='))
  match rules.find? (·.name = name), s.dropWhile (· ≠ '=') with
  | none, _ => .error (.unknownOption ("--" ++ name))
  | some rule, [] =>
    .ok (if rule.takesValue then .options [] (some rule.letter)
      else .options [(rule.letter, "")] none)
  | some rule, _ :: value =>
    if rule.takesValue then .ok (.options [(rule.letter, String.ofList value)] none)
    else .error (.unwantedValue ("--" ++ name))

def read (rules : List OptionRule) (s : String) : Except UsageError Argument :=
  match s.toList with
  | ['-', '-'] => .ok .endOfOptions
  | '-' :: '-' :: name => ofName rules name
  | '-' :: c :: r => ofLetters rules (c :: r)
  | _ => .ok .operand

end Argument

namespace Arguments

def read (rules : List OptionRule) : List String → Except UsageError Arguments
  | [] => .ok ⟨[], []⟩
  | s :: rest =>
    match Argument.read rules s with
    | .error e => .error e
    | .ok .endOfOptions => .ok ⟨[], rest⟩
    | .ok .operand => (read rules rest).map fun a => { a with operands := s :: a.operands }
    | .ok (.options given none) =>
      (read rules rest).map fun a => { a with options := given ++ a.options }
    | .ok (.options given (some letter)) =>
      match rest with
      | [] => .error (.missingValue s)
      | value :: rest =>
        (read rules rest).map fun a => { a with options := given ++ (letter, value) :: a.options }

/-- The value of an option. Of several the last one counts. -/
def value? (a : Arguments) (letter : Char) : Option String := a.options.reverse.lookup letter

def operand? (a : Arguments) : Except UsageError (Option String) :=
  match a.operands with
  | [] => .ok none
  | [s] => .ok (some s)
  | _ :: s :: _ => .error (.unwantedOperand s)

def operand (a : Arguments) (name : String) : Except UsageError String := do
  match ← a.operand? with
  | some s => return s
  | none => throw (.missingOperand name)

end Arguments

end FencedChat
