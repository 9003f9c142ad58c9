/-!
Character classes given as ranges of code points in increasing order.
-/

namespace FencedChat

/-- The first and the last code point of a range, both included. -/
abbrev CodeRange := Nat × Nat

/-- Whether a character lies in one of the ranges. The ranges are in increasing order, so the search
ends at the first range that starts above the character. -/
def CodeRange.covers : List CodeRange → Char → Bool
  | [], _ => false
  | (lo, hi) :: rest, c =>
    if c.toNat < lo then false else decide (c.toNat ≤ hi) || covers rest c

@[simp] theorem CodeRange.covers_nil (c : Char) : CodeRange.covers [] c = false := rfl

end FencedChat
