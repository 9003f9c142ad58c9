import FencedChat.Text.Blank
import FencedChat.Text.WordChar

/-!
Sets of characters: listed characters, ranges and the three classes, or the complement of such a
set.
-/

namespace FencedChat

inductive CharSet.Item
  | char (c : Char)
  | range (first last : Char)
  | word
  | digit
  | blank
  deriving DecidableEq, Repr

/-- The characters of the listed items, or all the others. -/
structure CharSet where
  negated : Bool
  items : List CharSet.Item
  deriving DecidableEq, Repr

namespace CharSet

def Item.mem : Item → Char → Bool
  | char d, c => c == d
  | range a b, c => decide (a ≤ c) && decide (c ≤ b)
  | word, c => isWordChar c
  | digit, c => isDecimal c
  | blank, c => isBlank c

def mem (s : CharSet) (c : Char) : Bool := s.items.any (·.mem c) != s.negated

def of (items : List Item) : CharSet := ⟨false, items⟩

def except (items : List Item) : CharSet := ⟨true, items⟩

def single (c : Char) : CharSet := of [.char c]

def chars (s : String) : CharSet := of (s.toList.map .char)

def butChars (s : String) : CharSet := except (s.toList.map .char)

def any : CharSet := except []

def word : CharSet := of [.word]

def digit : CharSet := of [.digit]

def blank : CharSet := of [.blank]

def notBlank : CharSet := except [.blank]

def letters : List Item := [.range 'a' 'z', .range 'A' 'Z']

def hexDigits : List Item := [.range '0' '9', .range 'a' 'f', .range 'A' 'F']

/-- A letter and the characters that differ from it in case only. The long s, the Kelvin sign and
the dotted and dotless i are such characters. -/
def anyCase (c : Char) : CharSet :=
  of (.char c ::
    if c == 's' then [.char 'S', .char (Char.ofNat 0x17F)]
    else if c == 'k' then [.char 'K', .char (Char.ofNat 0x212A)]
    else if c == 'i' then [.char 'I', .char (Char.ofNat 0x130), .char (Char.ofNat 0x131)]
    else if c.isLower then [.char c.toUpper]
    else [])

@[simp] theorem mem_single (c d : Char) : (single c).mem d = (d == c) := by
  simp [single, of, mem, Item.mem]

@[simp] theorem mem_any (c : Char) : any.mem c = true := rfl

@[simp] theorem mem_word (c : Char) : word.mem c = isWordChar c := by
  simp [word, of, mem, Item.mem]

theorem mem_except (items : List Item) (c : Char) : (except items).mem c = !(of items).mem c := by
  simp [except, of, mem]

end CharSet

end FencedChat
