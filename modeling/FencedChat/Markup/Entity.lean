import FencedChat.Markup.EntityTable
import FencedChat.Text.Digits

/-!
Decoding of HTML character references. A numeric reference may lack its semicolon; a named one is
looked up whole, then by its longest proper beginning that is a name. A text with a decimal
reference of too many digits cannot be decoded.
-/

namespace FencedChat.Markup

/-- Code points that a numeric reference writes for a character of the Windows-1252 page. -/
def windowsCharacters : List (Nat × Nat) :=
  [(0x80, 0x20AC), (0x82, 0x201A), (0x83, 0x0192), (0x84, 0x201E), (0x85, 0x2026), (0x86, 0x2020),
   (0x87, 0x2021), (0x88, 0x02C6), (0x89, 0x2030), (0x8A, 0x0160), (0x8B, 0x2039), (0x8C, 0x0152),
   (0x8E, 0x017D), (0x91, 0x2018), (0x92, 0x2019), (0x93, 0x201C), (0x94, 0x201D), (0x95, 0x2022),
   (0x96, 0x2013), (0x97, 0x2014), (0x98, 0x02DC), (0x99, 0x2122), (0x9A, 0x0161), (0x9B, 0x203A),
   (0x9C, 0x0153), (0x9E, 0x017E), (0x9F, 0x0178)]

/-- Code points that stand for no character: controls that are not blank, and the noncharacters. -/
def isVanishingCode (n : Nat) : Bool :=
  (decide (1 ≤ n) && decide (n ≤ 8)) || n == 0xB || (decide (0xE ≤ n) && decide (n ≤ 0x1F))
    || (decide (0x7F ≤ n) && decide (n ≤ 0x9F)) || (decide (0xFDD0 ≤ n) && decide (n ≤ 0xFDEF))
    || n % 0x10000 == 0xFFFE || n % 0x10000 == 0xFFFF

def numericText (n : Nat) : List Char :=
  match windowsCharacters.lookup n with
  | some m => [Char.ofNat m]
  | none =>
    if n == 0 then [Char.ofNat 0xFFFD]
    else if n == 0x0D || (decide (0x80 ≤ n) && decide (n ≤ 0x9F)) then [Char.ofNat n]
    else if (decide (0xD800 ≤ n) && decide (n ≤ 0xDFFF)) || decide (0x10FFFF < n) then
      [Char.ofNat 0xFFFD]
    else if isVanishingCode n then []
    else [Char.ofNat n]

def named? (name : List Char) : Option (List Char) :=
  (entityTable.lookup (String.ofList name)).map (·.map Char.ofNat)

def isNameChar (c : Char) : Bool :=
  !(c == '\t' || c == '\n' || c == '\x0c' || c == ' ' || c == '<' || c == '&' || c == '#' ||
    c == ';')

def semicolon : List Char → List Char × List Char
  | ';' :: r => ([';'], r)
  | r => ([], r)

/-- The longest beginning of `name` with at most `n` and at least two characters that is a name,
decoded, with what follows it. -/
def longestNamed? (name : List Char) : Nat → Option (List Char)
  | 0 => none
  | n + 1 =>
    if n + 1 < 2 then none
    else match named? (name.take (n + 1)) with
      | some cs => some (cs ++ name.drop (n + 1))
      | none => longestNamed? name n

/-- The text of a reference by name, its semicolon included if it has one. -/
def namedText (name : List Char) : List Char :=
  match named? name with
  | some cs => cs
  | none => (longestNamed? name (name.length - 1)).getD ('&' :: name)

/-- The reference at the start of what follows an ampersand: its text and what comes after it. -/
def reference? (s : List Char) : Option (List Char × List Char) :=
  match s with
  | '#' :: r =>
    let decimal := r.takeWhile (·.isDigit)
    if decimal ≠ [] then
      some (numericText (digitsValue 10 decimal), (semicolon (r.drop decimal.length)).2)
    else match r with
      | x :: r =>
        let hex := r.takeWhile fun c => (hexDigit? c).isSome
        if (x == 'x' || x == 'X') && hex ≠ [] then
          some (numericText (digitsValue 16 hex), (semicolon (r.drop hex.length)).2)
        else none
      | [] => none
  | _ =>
    let name := (s.take 32).takeWhile isNameChar
    if name = [] then none
    else
      let (mark, rest) := semicolon (s.drop name.length)
      some (namedText (name ++ mark), rest)

theorem length_semicolon_le (s : List Char) : (semicolon s).2.length ≤ s.length := by
  unfold semicolon; split <;> simp

theorem length_reference?_le {s t r : List Char} (h : reference? s = some (t, r)) :
    r.length ≤ s.length := by
  unfold reference? at h
  split at h
  · rename_i q
    dsimp only at h
    split at h
    · simp only [Option.some.injEq, Prod.mk.injEq] at h
      have := length_semicolon_le (q.drop (q.takeWhile (·.isDigit)).length)
      simp only [← h.2, List.length_cons, List.length_drop] at *
      omega
    · split at h
      · rename_i x q _
        split at h
        · simp only [Option.some.injEq, Prod.mk.injEq] at h
          have := length_semicolon_le (q.drop (q.takeWhile fun c => (hexDigit? c).isSome).length)
          simp only [← h.2, List.length_cons, List.length_drop] at *
          omega
        · simp at h
      · simp at h
  · dsimp only at h
    split at h
    · simp at h
    · simp only [Option.some.injEq, Prod.mk.injEq] at h
      have := length_semicolon_le (s.drop ((s.take 32).takeWhile isNameChar).length)
      simp only [← h.2, List.length_drop] at *
      omega

/-- Writes the decoded text behind `done`, which is held in reverse. -/
def decodeOnto (done : List Char) (s : List Char) : List Char :=
  match s with
  | [] => done.reverse
  | c :: r =>
    if c = '&' then
      match _h : reference? r with
      | some (t, r') => decodeOnto (t.reverse ++ done) r'
      | none => decodeOnto (c :: done) r
    else decodeOnto (c :: done) r
termination_by s.length
decreasing_by
  all_goals simp only [List.length_cons]
  · exact Nat.lt_succ_of_le (length_reference?_le (by assumption))
  all_goals omega

/-- The text with every character reference replaced, in one pass from left to right. -/
def decodeEntities (s : List Char) : List Char := decodeOnto [] s

inductive EntityError
  /-- A decimal reference has too many digits. -/
  | tooManyDigits (count : Nat)
  deriving DecidableEq, Repr

def EntityError.message : EntityError → String
  | tooManyDigits count => oversizedNumber count

/-- The number of digits of the first decimal reference that has too many. Hexadecimal ones may have
any number. -/
def oversizedReference? : List Char → Option Nat
  | '&' :: '#' :: r =>
    let count := (r.takeWhile (·.isDigit)).length
    if maxDigits < count then some count else oversizedReference? r
  | _ :: r => oversizedReference? r
  | [] => none

/-- The decoded text, unless some reference has too many digits. -/
def decode (s : List Char) : Except EntityError (List Char) :=
  match oversizedReference? s with
  | some count => .error (.tooManyDigits count)
  | none => .ok (decodeEntities s)

end FencedChat.Markup
