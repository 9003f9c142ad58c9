import FencedChat.Text.Blank
import FencedChat.Text.Digits
import FencedChat.Value

/-!
Token counts of a reply. Counts may come as any value that stands for a whole number.
-/

namespace FencedChat

structure TokenUsage where
  input : Int
  output : Int
  deriving DecidableEq, Repr

namespace TokenUsage

def total (u : TokenUsage) : Int := u.input + u.output

/-- The text behind the zeros and underscores that follow a leading zero. One of them is kept before
a point and at the end of the text. What follows has to be a point, a digit or a minus sign. -/
def behindZeros? (last : Char) : List Char → Option (List Char)
  | [] => some [last]
  | c :: r =>
    if c == '0' || c == '_' then behindZeros? c r
    else if c.isDigit || c == '-' then some (c :: r)
    else if c == '.' then some (last :: c :: r)
    else none

/-- A written number without leading zeros. It has to start with a digit or a minus sign. -/
def withoutZeros? : List Char → Option (List Char)
  | [] => none
  | c :: r =>
    if c == '0' then behindZeros? '0' r
    else if c.isDigit || c == '-' then some (c :: r)
    else none

/-- A written number without a plus sign, which must not stand before a minus sign. -/
def withoutPlus? : List Char → Option (List Char)
  | '+' :: '-' :: _ => none
  | '+' :: r => some r
  | s => some s

def withoutFraction (s : List Char) : List Char :=
  let whole := s.takeWhile (· ≠ '.')
  match s.drop (whole.length + 1) with
  | [] => s
  | zeros => if zeros.all (· == '0') then whole else s

def hasDoubleUnderscore : List Char → Bool
  | '_' :: '_' :: _ => true
  | _ :: r => hasDoubleUnderscore r
  | [] => false

/-- A written number without underscores, if these stand one by one and inside the number. -/
def withoutUnderscores (s : List Char) : List Char :=
  if s.head? = some '_' || s.getLast? = some '_' || hasDoubleUnderscore s then s
  else s.filter (· ≠ '_')

/-- The most characters that a number may be written with, its sign included. -/
def maxNumberLength : Nat := 4300

/-- The number that plain digits write. Only zero itself starts with a zero. -/
def ofPlainDigits? (s : List Char) : Option Nat :=
  match s with
  | [] => none
  | '0' :: _ :: _ => none
  | s =>
    if s.all Char.isDigit then some (digitsValue 10 s) else none

/-- The whole number that a text writes: digits behind an optional sign, with zeros before them,
single underscores between them and a fraction of zeros behind them. A minus sign may stand behind
the zeros as well, but no zero may follow it. -/
def ofDigits? (s : List Char) : Option Int :=
  match (withoutPlus? s).bind withoutZeros? with
  | none => none
  | some s =>
    let s := withoutUnderscores (withoutFraction s)
    if maxNumberLength < s.length then none
    else match s with
      | '-' :: r => (ofPlainDigits? r).map fun n => -(n : Int)
      | s => (ofPlainDigits? s).map fun n => (n : Int)

/-- Blanks that may surround a count, which the separator characters of ASCII are not among. -/
def isPadding (c : Char) : Bool :=
  isBlank c && !(decide (0x1C ≤ c.toNat) && decide (c.toNat ≤ 0x1F))

/-- The bound below which the size of a floating point number has to lie. -/
def floatBound : Nat := Nat.pow 2 63

/-- The whole number that a floating point number within the bound is. -/
def ofFloat? (x : Float) : Option Int :=
  let bits := x.toBits.toNat
  let exponent : Nat := bits / Nat.pow 2 52 % Nat.pow 2 11
  let fraction : Nat := bits % Nat.pow 2 52
  if exponent = 2047 then none
  else
    let mantissa : Nat := if exponent = 0 then fraction else Nat.pow 2 52 + fraction
    let e : Int := (if exponent = 0 then 1 else (exponent : Int)) - 1075
    let size? : Option Nat :=
      if 0 ≤ e then some (mantissa * Nat.pow 2 e.toNat)
      else if mantissa % Nat.pow 2 (-e).toNat = 0 then some (mantissa / Nat.pow 2 (-e).toNat)
      else none
    (size?.filter (· < floatBound)).map fun n => if bits < Nat.pow 2 63 then (n : Int)
      else -(n : Int)

def count? : Value → Option Int
  | .int n => some n
  | .bool b => some (if b then 1 else 0)
  | .real x => ofFloat? x
  | .text s =>
    let cs := (s.toList.dropWhile isPadding).reverse.dropWhile isPadding
    ofDigits? cs.reverse
  | _ => none

def ofValues? (input output : Value) : Option TokenUsage :=
  match count? input, count? output with
  | some i, some o => some ⟨i, o⟩
  | _, _ => none

def ofTable? (t : Listing Value) : Option TokenUsage :=
  ofValues? ((List.lookup "input_tokens" t).getD (.int 0))
    ((List.lookup "output_tokens" t).getD (.int 0))

end TokenUsage

end FencedChat
