import FencedChat.Text.Digits

/-!
Decimal text of binary floating point numbers: the fewest digits that read back as the same number,
and of those the nearest to it. Numbers from 0.0001 up to 10^16 are written positionally.
-/

namespace FencedChat.Decimal

/-- A positive number as a fraction, with the distances to the ends of the reals that round to it as
fractions of the same denominator, and whether the ends round to it too. -/
structure Target where
  num : Nat
  den : Nat
  below : Nat
  above : Nat
  closed : Bool

namespace Target

/-- The number `mantissa * 2 ^ exponent`. At a power of two the reals below are closer. -/
def ofBinary (mantissa : Nat) (exponent : Int) (powerOfTwo : Bool) : Target :=
  let up := Nat.pow 2 exponent.toNat
  let down := Nat.pow 2 (-exponent).toNat
  ⟨4 * mantissa * up, 4 * down, (if powerOfTwo then 1 else 2) * up, 2 * up, mantissa % 2 == 0⟩

/-- Whether the fraction `a / b` reads back as the number. -/
def holds (t : Target) (a b : Nat) : Bool :=
  let x := a * t.den
  let low := (t.num - t.below) * b
  let high := (t.num + t.above) * b
  if t.closed then decide (low ≤ x) && decide (x ≤ high) else decide (low < x) && decide (x < high)

/-- The power of ten just above the number, as its exponent. -/
def magnitude (t : Target) : Int :=
  let e : Int := (Nat.toDigits 10 t.num).length - (Nat.toDigits 10 t.den).length
  if t.den * Nat.pow 10 e.toNat ≤ t.num * Nat.pow 10 (-e).toNat then e + 1 else e

/-- The decimals with `n` digits next to the number that read back as it: the nearer one, and of two
that are as near the even one. -/
def decimal? (t : Target) (n : Nat) : Option (Nat × Int) :=
  let k : Int := t.magnitude - n
  let up := Nat.pow 10 k.toNat
  let down := Nat.pow 10 (-k).toNat
  let c := t.num * down / (t.den * up)
  match t.holds (c * up) down, t.holds ((c + 1) * up) down with
  | false, false => none
  | true, false => some (c, k)
  | false, true => some (c + 1, k)
  | true, true =>
    let middle := t.den * up * (2 * c + 1)
    let twice := 2 * (t.num * down)
    if twice = middle then some (c + c % 2, k)
    else some (if twice < middle then c else c + 1, k)

/-- The shortest decimal: digits and the exponent of ten of the last one. Seventeen digits are
always enough. -/
def shortest (t : Target) : Nat × Int :=
  ((List.range 17).findSome? fun n => t.decimal? (n + 1)).getD (0, 0)

end Target

def positional (digits : List Char) (point : Int) : List Char :=
  if point ≤ 0 then '0' :: '.' :: List.replicate (-point).toNat '0' ++ digits
  else if (digits.length : Int) ≤ point then
    digits ++ List.replicate (point.toNat - digits.length) '0' ++ ['.', '0']
  else digits.take point.toNat ++ '.' :: digits.drop point.toNat

def scientific (digits : List Char) (point : Int) : List Char :=
  let e := point - 1
  let size := Nat.toDigits 10 e.natAbs
  let mark := if e < 0 then '-' else '+'
  let fraction := digits.drop 1
  digits.take 1 ++ (if fraction.isEmpty then [] else '.' :: fraction)
    ++ 'e' :: mark :: (if size.length < 2 then '0' :: size else size)

def positiveText (t : Target) : List Char :=
  let (c, k) := t.shortest
  let all := Nat.toDigits 10 c
  let digits := (all.reverse.dropWhile (· == '0')).reverse
  let point := k + all.length
  if -4 < point && point ≤ 16 then positional digits point else scientific digits point

def text (x : Float) : String :=
  let bits := x.toBits.toNat
  let sign := if bits < Nat.pow 2 63 then [] else ['-']
  let exponent : Nat := bits / Nat.pow 2 52 % Nat.pow 2 11
  let fraction := bits % Nat.pow 2 52
  String.ofList <|
    if exponent = 2047 then
      if fraction = 0 then sign ++ ['i', 'n', 'f'] else ['n', 'a', 'n']
    else if exponent = 0 then
      if fraction = 0 then sign ++ ['0', '.', '0']
      else sign ++ positiveText (.ofBinary fraction (-1074) false)
    else sign ++ positiveText
      (.ofBinary (Nat.pow 2 52 + fraction) ((exponent : Int) - 1075)
        (fraction == 0 && decide (1 < exponent)))

/-- The whole number that digits behind an optional sign write, zero if there are none. -/
def wholeOfText (s : List Char) : Int :=
  match s with
  | '-' :: r => -(digitsValue 10 r : Int)
  | '+' :: r => digitsValue 10 r
  | r => digitsValue 10 r

/-- The number that a text writes: digits behind an optional minus sign, with a fraction and a power
of ten if need be. -/
def ofText (s : String) : Float :=
  match s with
  | "NaN" => 0 / 0
  | "Infinity" => 1 / 0
  | "-Infinity" => -1 / 0
  | _ =>
    let negative := s.toList.head? = some '-'
    let (mantissa, power) :=
      (if negative then s.toList.drop 1 else s.toList).span fun c => c != 'e' && c != 'E'
    let (whole, fraction) := mantissa.span (· != '.')
    let fraction := fraction.drop 1
    let e := wholeOfText (power.drop 1) - fraction.length
    let x := Float.ofScientific (digitsValue 10 (whole ++ fraction)) (decide (e < 0)) e.natAbs
    if negative then -x else x

end FencedChat.Decimal
