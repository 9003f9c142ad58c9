import FencedChat.Listing
import FencedChat.Text.Decimal
import FencedChat.Text.Quoted

/-!
Values of no fixed type: the context of a fault and the further options of a request.
-/

namespace FencedChat

inductive Value
  | null
  | bool (b : Bool)
  | int (n : Int)
  | real (x : Float)
  | text (s : String)
  | list (xs : List Value)
  | table (entries : List (String × Value))
  deriving Inhabited

namespace Value

mutual

/-- A value on one line. Texts stand in quotes. -/
def display : Value → String
  | null => "None"
  | bool b => if b then "True" else "False"
  | int n => toString n
  | real x => Decimal.text x
  | text s => quoted s
  | list xs => "[" ++ ", ".intercalate (displayAll xs) ++ "]"
  | table entries => "\x7b" ++ ", ".intercalate (displayEntries entries) ++ "\x7d"

def displayAll : List Value → List String
  | [] => []
  | v :: vs => v.display :: displayAll vs

def displayEntries : List (String × Value) → List String
  | [] => []
  | (k, v) :: rest => (quoted k ++ ": " ++ v.display) :: displayEntries rest

end

end Value

end FencedChat
