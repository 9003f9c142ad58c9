import FencedChat.Highlight
import FencedChat.Proofs.Grammar.Cover
import Mathlib.Data.List.Chain

/-!
Spans made of the pieces of a scan. Joining plain pieces keeps the text, never leaves two plain
spans side by side, and makes no empty span out of pieces that hold text.
-/

namespace FencedChat

namespace Span

variable {x : Span} {done pieces : List Span} {plain : List String}

theorem textOf_releasePlain (plain : List String) (done : List Span) :
    textOf (releasePlain plain done).reverse =
      textOf done.reverse ++ plain.reverse.flatMap String.toList := by
  unfold releasePlain
  split
  · rename_i hp
    simp [List.isEmpty_iff.mp hp]
  · simp [String.toList_join]

/-- The spans found so far, the plain pieces held back and the pieces to come are the text at every
step. -/
theorem textOf_joinPlainOnto (done : List Span) (plain : List String) (pieces : List Span) :
    textOf (joinPlainOnto done plain pieces) =
      textOf done.reverse ++ plain.reverse.flatMap String.toList ++ textOf pieces := by
  induction pieces generalizing done plain with
  | nil =>
    rw [joinPlainOnto, textOf_releasePlain, textOf_nil, List.append_nil]
  | cons x xs ih =>
    unfold joinPlainOnto
    split
    · rw [ih]
      simp
    · rw [ih, List.reverse_cons, textOf_append, textOf_releasePlain]
      simp

theorem textOf_joinPlain (pieces : List Span) : textOf (joinPlain pieces) = textOf pieces := by
  simp [joinPlain, textOf_joinPlainOnto]

/-- Behind classified spans there is room for a plain one. -/
theorem isChain_releasePlain (hd : done.IsChain Apart)
    (hh : ∀ x ∈ done.head?, x.category ≠ .plain) :
    (releasePlain plain done).IsChain Apart := by
  unfold releasePlain
  split
  · exact hd
  · exact hd.cons fun x hx => .inr (hh x hx)

/-- The spans found so far end in a classified one whenever plain pieces may be held back. -/
theorem isChain_joinPlainOnto (hd : done.IsChain Apart)
    (hh : ∀ x ∈ done.head?, x.category ≠ .plain) :
    (joinPlainOnto done plain pieces).IsChain Apart := by
  induction pieces generalizing done plain with
  | nil =>
    rw [joinPlainOnto, List.isChain_reverse]
    exact (isChain_releasePlain hd hh).imp fun _ _ h => h.symm
  | cons x xs ih =>
    unfold joinPlainOnto
    split
    · exact ih hd hh
    · rename_i hx
      apply ih
      · exact (isChain_releasePlain hd hh).cons fun _ _ => .inl hx
      · intro y hy
        obtain rfl := Option.some.inj hy
        exact hx

theorem isChain_joinPlain (pieces : List Span) : (joinPlain pieces).IsChain Apart :=
  isChain_joinPlainOnto .nil (by simp)

/-- Where no plain pieces stand side by side there is nothing to join, whether one is held back or
none. -/
theorem joinPlainOnto_of_isChain (hc : pieces.IsChain Apart) (done : List Span) :
    joinPlainOnto done [] pieces = done.reverse ++ pieces ∧
      ∀ w, (∀ x ∈ pieces.head?, x.category ≠ .plain) →
        joinPlainOnto done [w] pieces = done.reverse ++ ⟨.plain, w⟩ :: pieces := by
  induction pieces generalizing done with
  | nil =>
    refine ⟨by simp [joinPlainOnto, releasePlain], fun w _ => ?_⟩
    simp [joinPlainOnto, releasePlain]
  | cons x xs ih =>
    obtain ⟨hx, hxs⟩ := List.isChain_cons.mp hc
    constructor
    · unfold joinPlainOnto
      split
      · rename_i hplain
        have hnext : ∀ y ∈ xs.head?, y.category ≠ .plain := by
          intro y hy
          rcases hx y hy with h | h
          · exact absurd hplain h
          · exact h
        rw [(ih hxs done).2 x.text hnext, ← hplain]
      · rw [(ih hxs _).1]
        simp [releasePlain]
    · intro w hw
      have hplain : x.category ≠ .plain := hw x rfl
      rw [joinPlainOnto, if_neg hplain, (ih hxs _).1]
      simp [releasePlain]

theorem joinPlain_of_isChain (hc : pieces.IsChain Apart) : joinPlain pieces = pieces :=
  (joinPlainOnto_of_isChain hc []).1

theorem text_ne_of_mem_releasePlain (hd : ∀ x ∈ done, x.text ≠ "") (hp : ∀ s ∈ plain, s ≠ "") :
    ∀ x ∈ releasePlain plain done, x.text ≠ "" := by
  unfold releasePlain
  split
  · exact hd
  · rename_i hne
    rw [List.forall_mem_cons]
    refine ⟨fun hj => ?_, hd⟩
    obtain ⟨s, hs⟩ := List.exists_mem_of_ne_nil plain (by simpa using hne)
    -- one piece that holds text is enough
    have hnil := congrArg String.toList hj
    rw [String.toList_join, String.toList_empty, List.flatMap_eq_nil_iff] at hnil
    exact hp s hs (String.toList_eq_nil_iff.mp (hnil s (List.mem_reverse.mpr hs)))

theorem text_ne_of_mem_joinPlainOnto (hd : ∀ x ∈ done, x.text ≠ "") (hp : ∀ s ∈ plain, s ≠ "")
    (hx : ∀ x ∈ pieces, x.text ≠ "") : ∀ x ∈ joinPlainOnto done plain pieces, x.text ≠ "" := by
  induction pieces generalizing done plain with
  | nil =>
    intro x h
    rw [joinPlainOnto, List.mem_reverse] at h
    exact text_ne_of_mem_releasePlain hd hp x h
  | cons x xs ih =>
    obtain ⟨ht, hxs⟩ := List.forall_mem_cons.mp hx
    unfold joinPlainOnto
    split
    · exact ih hd (List.forall_mem_cons.mpr ⟨ht, hp⟩) hxs
    · have hr := text_ne_of_mem_releasePlain hd hp
      exact ih (List.forall_mem_cons.mpr ⟨ht, hr⟩) (List.forall_mem_nil _) hxs

theorem text_ne_of_mem_joinPlain (hx : ∀ x ∈ pieces, x.text ≠ "") :
    ∀ x ∈ joinPlain pieces, x.text ≠ "" :=
  text_ne_of_mem_joinPlainOnto (List.forall_mem_nil _) (List.forall_mem_nil _) hx

end Span

/-- The spans of a text spell the text. -/
theorem Grammar.textOf_tokens (g : Grammar) (code : String) :
    Span.textOf (g.tokens code) = code.toList := by
  rw [tokens, Span.textOf_joinPlain, textOf_scan]

end FencedChat
