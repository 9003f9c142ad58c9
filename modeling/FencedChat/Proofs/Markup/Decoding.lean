import FencedChat.Markup.Entity
import FencedChat.Markup.Escape

/-!
Decoding undoes escaping. Each reference that escaping writes is decoded to the character it stands
for whatever follows it, so no character of escaped text takes part in a longer reference, and text
that looks like a reference itself comes back as it was.
-/

namespace FencedChat.Markup

theorem named?_amp : named? ['a', 'm', 'p', ';'] = some ['&'] := by decide +kernel

theorem named?_lt : named? ['l', 't', ';'] = some ['<'] := by decide +kernel

theorem named?_gt : named? ['g', 't', ';'] = some ['>'] := by decide +kernel

theorem named?_quot : named? ['q', 'u', 'o', 't', ';'] = some ['"'] := by decide +kernel

variable {s t r : List Char} {c : Char}

theorem decodeOnto_reference (h : reference? s = some (t, r)) (done : List Char) :
    decodeOnto done ('&' :: s) = decodeOnto (t.reverse ++ done) r := by
  rw [decodeOnto, if_pos rfl]
  split
  · rename_i t' r' h'
    obtain ⟨rfl, rfl⟩ := Prod.mk.inj (Option.some.inj (h.symm.trans h'))
    rfl
  · rename_i h'
    simp [h] at h'

theorem decodeOnto_ampersand (h : reference? s = none) (done : List Char) :
    decodeOnto done ('&' :: s) = decodeOnto ('&' :: done) s := by
  rw [decodeOnto, if_pos rfl]
  split
  · rename_i h'
    simp [h] at h'
  · rfl

theorem decodeOnto_cons (h : c ≠ '&') (done s : List Char) :
    decodeOnto done (c :: s) = decodeOnto (c :: done) s := by
  rw [decodeOnto, if_neg h]

theorem decodeOnto_append (done base s : List Char) :
    decodeOnto (done ++ base) s = base.reverse ++ decodeOnto done s := by
  fun_induction decodeOnto done s with
  | case1 done => rw [decodeOnto, List.reverse_append]
  | case2 done r t r' h ih => rw [decodeOnto_reference h, ← List.append_assoc, ih]
  | case3 done r h ih =>
    rw [decodeOnto_ampersand h]
    exact ih
  | case4 done c r hc ih =>
    rw [decodeOnto_cons hc]
    exact ih

theorem decodeOnto_eq (done s : List Char) : decodeOnto done s = done.reverse ++ decodeEntities s :=
  decodeOnto_append [] done s

@[simp] theorem decodeEntities_nil : decodeEntities [] = [] := by
  rw [decodeEntities, decodeOnto, List.reverse_nil]

theorem decodeEntities_cons (h : c ≠ '&') (s : List Char) :
    decodeEntities (c :: s) = c :: decodeEntities s := by
  rw [decodeEntities, decodeOnto_cons h, decodeOnto_eq]
  rfl

theorem decodeEntities_reference (h : reference? s = some (t, r)) :
    decodeEntities ('&' :: s) = t ++ decodeEntities r := by
  rw [decodeEntities, decodeOnto_reference h, decodeOnto_eq, List.append_nil, List.reverse_reverse]

theorem oversizedReference?_cons (h : c ≠ '&') (s : List Char) :
    oversizedReference? (c :: s) = oversizedReference? s := by
  rw [oversizedReference?]
  intro r hc
  exact absurd hc h

/-- `w` is decoded to the character `c`, whatever follows it. -/
def Spells (w : List Char) (c : Char) : Prop :=
  ∀ s, decode (w ++ s) = (decode s).map (c :: ·)

theorem spells_self (h : c ≠ '&') : Spells [c] c := by
  intro s
  simp only [List.singleton_append, decode, oversizedReference?_cons h, decodeEntities_cons h]
  split <;> rfl

theorem spells_reference {w : List Char}
    (hr : ∀ s, reference? (w ++ s) = some ([c], s))
    (ho : ∀ s, oversizedReference? ('&' :: (w ++ s)) = oversizedReference? s) :
    Spells ('&' :: w) c := by
  intro s
  simp only [List.cons_append, decode, ho, decodeEntities_reference (hr s)]
  split <;> rfl

theorem spells_amp : Spells ['&', 'a', 'm', 'p', ';'] '&' := by
  apply spells_reference
  · intro s
    have h : reference? (['a', 'm', 'p', ';'] ++ s) = some (namedText ['a', 'm', 'p', ';'], s) :=
      rfl
    rw [h, namedText, named?_amp]
  · intro s
    rfl

theorem spells_lt : Spells ['&', 'l', 't', ';'] '<' := by
  apply spells_reference
  · intro s
    have h : reference? (['l', 't', ';'] ++ s) = some (namedText ['l', 't', ';'], s) := rfl
    rw [h, namedText, named?_lt]
  · intro s
    rfl

theorem spells_gt : Spells ['&', 'g', 't', ';'] '>' := by
  apply spells_reference
  · intro s
    have h : reference? (['g', 't', ';'] ++ s) = some (namedText ['g', 't', ';'], s) := rfl
    rw [h, namedText, named?_gt]
  · intro s
    rfl

theorem spells_quot : Spells ['&', 'q', 'u', 'o', 't', ';'] '"' := by
  apply spells_reference
  · intro s
    have h : reference? (['q', 'u', 'o', 't', ';'] ++ s) =
        some (namedText ['q', 'u', 'o', 't', ';'], s) := rfl
    rw [h, namedText, named?_quot]
  · intro s
    rfl

theorem spells_apostrophe : Spells ['&', '#', 'x', '2', '7', ';'] '\'' :=
  spells_reference (w := ['#', 'x', '2', '7', ';']) (fun _ => rfl) (fun _ => rfl)

theorem spells_escapeChar (c : Char) : Spells (escapeChar c) c := by
  unfold escapeChar
  split
  · exact spells_amp
  · exact spells_lt
  · exact spells_gt
  · rename_i h _ _
    exact spells_self h

theorem spells_escapeAttributeChar (c : Char) : Spells (escapeAttributeChar c) c := by
  unfold escapeAttributeChar
  split
  · exact spells_quot
  · exact spells_apostrophe
  · exact spells_escapeChar c

theorem decode_nil : decode [] = .ok [] := by
  rw [decode, oversizedReference?, decodeEntities_nil]

/-- A text written character by character is decoded to itself, whatever follows it. -/
theorem decode_flatMap_append {f : Char → List Char} (hf : ∀ c, Spells (f c) c) (s t : List Char) :
    decode (s.flatMap f ++ t) = (decode t).map (s ++ ·) := by
  induction s with
  | nil =>
    simp only [List.flatMap_nil, List.nil_append]
    cases decode t <;> rfl
  | cons c s ih =>
    rw [List.flatMap_cons, List.append_assoc, hf c, ih]
    cases decode t <;> rfl

theorem decode_escapeChars (s : List Char) : decode (escapeChars s) = .ok s := by
  have h := decode_flatMap_append spells_escapeChar s []
  rw [decode_nil, List.append_nil] at h
  rw [escapeChars, h, Except.map, List.append_nil]

theorem decode_escapeAttribute (s : String) : decode (escapeAttribute s).toList = .ok s.toList := by
  have h := decode_flatMap_append spells_escapeAttributeChar s.toList []
  rw [decode_nil, List.append_nil] at h
  rw [escapeAttribute, String.toList_ofList, h, Except.map, List.append_nil]

/-- Some decimal reference of the text has more digits than a number may have. -/
def HasOversizedReference (s : List Char) : Prop :=
  ∃ before after, s = before ++ '&' :: '#' :: after ∧
    maxDigits < (after.takeWhile (·.isDigit)).length

theorem not_hasOversizedReference_nil : ¬ HasOversizedReference [] := by
  rintro ⟨before, after, h, _⟩
  simp at h

theorem hasOversizedReference_cons : HasOversizedReference (c :: s) ↔
    (∃ after, c = '&' ∧ s = '#' :: after ∧ maxDigits < (after.takeWhile (·.isDigit)).length) ∨
      HasOversizedReference s := by
  constructor
  · rintro ⟨before, after, h, hm⟩
    cases before with
    | nil =>
      obtain ⟨rfl, rfl⟩ := List.cons.inj h
      exact .inl ⟨after, rfl, rfl, hm⟩
    | cons b before => exact .inr ⟨before, after, (List.cons.inj h).2, hm⟩
  · rintro (⟨after, rfl, rfl, hm⟩ | ⟨before, after, rfl, hm⟩)
    · exact ⟨[], after, rfl, hm⟩
    · exact ⟨c :: before, after, rfl, hm⟩

theorem oversizedReference?_eq_none_iff :
    oversizedReference? s = none ↔ ¬ HasOversizedReference s := by
  fun_induction oversizedReference? s with
  | case1 r count hc =>
    simp only [reduceCtorEq, false_iff, Classical.not_not]
    exact ⟨[], r, rfl, hc⟩
  | case2 r count hc ih =>
    rw [ih, hasOversizedReference_cons, hasOversizedReference_cons]
    simp [count] at hc ⊢
    omega
  | case3 c r hr ih =>
    rw [ih, hasOversizedReference_cons]
    have hn : ¬ ∃ after, c = '&' ∧ r = '#' :: after ∧
        maxDigits < (after.takeWhile (·.isDigit)).length := by
      rintro ⟨after, hc, he, _⟩
      exact hr after hc he
    simp only [hn, false_or]
  | case4 => simp [not_hasOversizedReference_nil]

/-- A text is decoded unless one of its decimal references has too many digits. -/
theorem exists_decode_iff : (∃ t, decode s = .ok t) ↔ ¬ HasOversizedReference s := by
  rw [← oversizedReference?_eq_none_iff, decode]
  split <;> simp_all

end FencedChat.Markup
