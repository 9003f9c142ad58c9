import FencedChat.Grammar.Scan
import FencedChat.Proofs.Pattern.Reach

/-!
A scan covers the text. Every search finds a match behind the place where it starts, so the pieces
of a scan are consecutive stretches of the text, and nothing is left out between them.
-/

namespace FencedChat

namespace Span

def textOf (spans : List Span) : List Char := spans.flatMap (·.text.toList)

@[simp] theorem textOf_nil : textOf [] = [] := rfl

@[simp] theorem textOf_cons (x : Span) (xs : List Span) :
    textOf (x :: xs) = x.text.toList ++ textOf xs := rfl

@[simp] theorem textOf_append (xs ys : List Span) : textOf (xs ++ ys) = textOf xs ++ textOf ys := by
  simp [textOf]

def Apart (x y : Span) : Prop := x.category ≠ .plain ∨ y.category ≠ .plain

theorem Apart.symm {x y : Span} (h : x.Apart y) : y.Apart x := Or.symm h

end Span

namespace Grammar

variable {rules : List Rule} {mayBeEmpty : Bool} {s : Cursor} {hit : Hit}

/-- A hit at a place starts there and stops there or later. -/
theorem hitAt?_reaches (h : hitAt? rules mayBeEmpty s = some hit) :
    hit.start = s ∧ s.Reaches hit.stop := by
  obtain ⟨r, _, hr⟩ := List.exists_of_findSome?_eq_some h
  obtain ⟨t, ht, rfl⟩ := Option.map_eq_some_iff.mp hr
  obtain ⟨v, hv, hk⟩ := Pattern.reaches_run ht
  obtain ⟨_, ht⟩ := Option.ite_none_right_eq_some.mp hk
  obtain rfl := Option.some.inj ht
  exact ⟨rfl, hv⟩

/-- A search finds a hit at its place or later. -/
theorem search?_reaches (h : search? rules mayBeEmpty s = some hit) :
    s.Reaches hit.start ∧ hit.start.Reaches hit.stop := by
  fun_induction search? rules mayBeEmpty s with
  | case1 mayBeEmpty s found hf =>
    obtain rfl := Option.some.inj h
    obtain ⟨he, hr⟩ := hitAt?_reaches hf
    rw [he]
    exact ⟨.refl s, hr⟩
  | case2 mayBeEmpty s _ t hn ih =>
    obtain ⟨hs, ht⟩ := ih h
    exact ⟨(Cursor.reaches_next? hn).trans hs, ht⟩
  | case3 => simp at h

@[simp] theorem textOf_passOver (gap : List Char) (done : List Span) :
    Span.textOf (passOver gap done).reverse = Span.textOf done.reverse ++ gap := by
  unfold passOver
  split
  · rename_i hg
    simp [List.isEmpty_iff.mp hg]
  · simp

/-- A hit that stops where the search started adds no text. -/
theorem textOf_found {done : List Span} (h : search? rules mayBeEmpty s = some hit)
    (hl : s.left ≤ hit.stop.left) :
    Span.textOf (⟨hit.category, String.ofList (hit.start.textTo hit.stop)⟩ ::
      passOver (s.textTo hit.start) done).reverse = Span.textOf done.reverse := by
  obtain ⟨hb, ha⟩ := search?_reaches h
  have hstart : s.left ≤ hit.start.left := Nat.le_trans hl ha.left_le
  have hstop : hit.start.left ≤ hit.stop.left := Nat.le_trans hb.left_le hl
  simp [Cursor.textTo_eq_nil hstart, Cursor.textTo_eq_nil hstop]

/-- The pieces found so far together with the text to come are the whole text at every step. -/
theorem textOf_scanOnto (rules : List Rule) (done : List Span) (mayBeEmpty : Bool) (s : Cursor) :
    Span.textOf (scanOnto rules done mayBeEmpty s) = Span.textOf done.reverse ++ s.rest := by
  fun_induction scanOnto rules done mayBeEmpty s with
  | case1 done mayBeEmpty s _ => exact textOf_passOver s.rest done
  | case2 done mayBeEmpty s hit hs found _ ih =>
    obtain ⟨hb, ha⟩ := search?_reaches hs
    rw [ih]
    simp only [found, List.reverse_cons, Span.textOf_append, textOf_passOver, Span.textOf_cons,
      Span.textOf_nil, String.toList_ofList, List.append_nil, List.append_assoc]
    rw [ha.textTo_append, hb.textTo_append]
  | case3 done s hit found hl hs ih =>
    rw [ih, textOf_found hs (by omega)]
  | case4 done mayBeEmpty s hit hs hl _ =>
    rw [textOf_passOver, textOf_found hs (by omega)]

/-- The pieces of a scan spell the text. -/
theorem textOf_scan (g : Grammar) (code : String) : Span.textOf (g.scan code) = code.toList :=
  textOf_scanOnto g.rules [] true (.start code.toList)

end Grammar

end FencedChat
