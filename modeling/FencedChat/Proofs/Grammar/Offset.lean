import FencedChat.Proofs.Grammar.Walk

/-!
Offsets. An offset counts the characters of the text that spans spell, and lies in one span at most.
In a walk the span tells what the rules did there: one took the text from a place at or before the
offset, or none matches at it.
-/

namespace FencedChat

namespace Span

/-- The span that an offset lies in, and the offset inside that span. -/
def at? : List Span → Nat → Option (Span × Nat)
  | [], _ => none
  | x :: xs, i => if i < x.text.length then some (x, i) else at? xs (i - x.text.length)

def categoryAt? (spans : List Span) (i : Nat) : Option Category :=
  (at? spans i).map fun p => p.1.category

variable {spans : List Span} {x : Span} {i k : Nat}

theorem length_text (x : Span) : x.text.toList.length = x.text.length := String.length_toList

theorem at?_append (before xs : List Span) (i : Nat) :
    at? (before ++ xs) ((textOf before).length + i) = at? xs i := by
  induction before with
  | nil => simp
  | cons y before ih =>
    have hi : ¬ (textOf (y :: before)).length + i < y.text.length := by
      rw [textOf_cons, List.length_append, length_text]
      omega
    have hrest :
        (textOf (y :: before)).length + i - y.text.length = (textOf before).length + i := by
      rw [textOf_cons, List.length_append, length_text]
      omega
    rw [List.cons_append, at?, if_neg hi, hrest, ih]

/-- An offset lies in the span that the text before it leads into. -/
theorem at?_eq_some_iff : at? spans i = some (x, k) ↔
    ∃ before after, spans = before ++ x :: after ∧ i = (textOf before).length + k ∧
      k < x.text.length := by
  constructor
  · intro h
    induction spans generalizing i with
    | nil => simp [at?] at h
    | cons y ys ih =>
      rw [at?] at h
      split at h
      · rename_i hi
        obtain ⟨rfl, rfl⟩ := Prod.mk.inj (Option.some.inj h)
        exact ⟨[], ys, rfl, by simp, hi⟩
      · rename_i hi
        obtain ⟨before, after, rfl, hk, hx⟩ := ih h
        refine ⟨y :: before, after, rfl, ?_, hx⟩
        rw [textOf_cons, List.length_append, length_text]
        omega
  · rintro ⟨before, after, rfl, rfl, hk⟩
    rw [at?_append, at?, if_pos hk]

/-- Every offset below the length of the text lies in a span. -/
theorem exists_at? (h : i < (textOf spans).length) : ∃ x k, at? spans i = some (x, k) := by
  induction spans generalizing i with
  | nil => simp at h
  | cons y ys ih =>
    rw [textOf_cons, List.length_append, length_text] at h
    by_cases hi : i < y.text.length
    · exact ⟨y, i, by rw [at?, if_pos hi]⟩
    · obtain ⟨x, k, hx⟩ := ih (i := i - y.text.length) (by omega)
      exact ⟨x, k, by rw [at?, if_neg hi, hx]⟩

theorem lt_of_at? (h : at? spans i = some (x, k)) : k < x.text.length := by
  obtain ⟨_, _, _, _, hk⟩ := at?_eq_some_iff.mp h
  exact hk

/-- Every place inside a span of the list is some offset. -/
theorem exists_at?_of_mem (hx : x ∈ spans) (hk : k < x.text.length) :
    ∃ i, at? spans i = some (x, k) := by
  obtain ⟨before, after, rfl⟩ := List.append_of_mem hx
  exact ⟨_, at?_eq_some_iff.mpr ⟨before, after, rfl, rfl, hk⟩⟩

theorem categoryAt?_eq_some_iff {category : Category} :
    categoryAt? spans i = some category ↔
    ∃ x k, at? spans i = some (x, k) ∧ x.category = category := by
  simp [categoryAt?]

/-- Inside a span the next offset lies in the same span. -/
theorem at?_succ_iff (hk : k + 1 < x.text.length) :
    at? spans (i + 1) = some (x, k + 1) ↔ at? spans i = some (x, k) := by
  rw [at?_eq_some_iff, at?_eq_some_iff]
  constructor
  · rintro ⟨before, after, rfl, hi, _⟩
    exact ⟨before, after, rfl, by omega, by omega⟩
  · rintro ⟨before, after, rfl, hi, _⟩
    exact ⟨before, after, rfl, by omega, hk⟩

theorem drop_textOf_append (before xs : List Span) (k : Nat) :
    (textOf (before ++ xs)).drop ((textOf before).length + k) = (textOf xs).drop k := by
  rw [textOf_append, ← List.drop_drop, List.drop_left]

/-- The text from an offset on starts with what its span holds from there on. -/
theorem drop_textOf_of_at? (h : at? spans i = some (x, k)) :
    x.text.toList.drop k <+: (textOf spans).drop i := by
  obtain ⟨before, after, rfl, rfl, hk⟩ := at?_eq_some_iff.mp h
  have hlength : k ≤ x.text.toList.length := by
    rw [length_text]
    exact Nat.le_of_lt hk
  rw [drop_textOf_append, textOf_cons, List.drop_append_of_le_length hlength]
  exact List.prefix_append _ _

end Span

namespace Grammar

variable {rules : List Rule} {cs : List Char} {xs : List Span} {x : Span} {i k : Nat}

/-- The place where a rule took the text that an offset lies in. -/
theorem Walks.takes_at? (h : Walks rules (.start cs) xs) (hx : Span.at? xs i = some (x, k))
    (hc : x.category ≠ .plain) :
    ∃ r s t, Takes rules s r t ∧ x = ⟨r.category, String.ofList (s.textTo t)⟩ ∧
      s.rest.drop k = cs.drop i := by
  obtain ⟨before, after, hxs, rfl, -⟩ := Span.at?_eq_some_iff.mp hx
  obtain ⟨r, s, t, hs, ht, he⟩ := h.exists_takes hxs hc
  refine ⟨r, s, t, ht, he, ?_⟩
  have hcs : cs = Span.textOf before ++ s.rest := hs.rest
  rw [hcs, ← List.drop_drop, List.drop_left]

/-- The place of an offset that lies in a plain span. -/
theorem Walks.silent_at? (h : Walks rules (.start cs) xs) (ht : Span.textOf xs = cs)
    (hx : Span.at? xs i = some (x, k)) (hc : x.category = .plain) :
    ∃ s, s.rest = cs.drop i ∧ ∀ r ∈ rules, r.pattern.match? s = none := by
  obtain ⟨before, after, hxs, hi, hk⟩ := Span.at?_eq_some_iff.mp hx
  have hlength : k < x.text.toList.length := by
    rw [Span.length_text]
    exact hk
  have hv : x.text.toList.drop k ≠ [] := by
    rw [Ne, List.drop_eq_nil_iff]
    exact Nat.not_le_of_lt hlength
  have htake : Span.textOf before ++ x.text.toList.take k = cs.take i := by
    rw [← ht, hxs, hi, Span.textOf_append, Span.textOf_cons, List.take_length_add_append,
      List.take_append_of_le_length (Nat.le_of_lt hlength)]
  have hplace := Cursor.passes_between (cs.take i) (cs.drop i)
  rw [List.take_append_drop, ← htake] at hplace
  exact ⟨_, rfl, h.match?_eq_none hxs hc (List.take_append_drop k _).symm hv hplace⟩

end Grammar

end FencedChat
