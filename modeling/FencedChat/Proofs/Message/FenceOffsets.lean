import FencedChat.Proofs.Message.Fence
import Mathlib.Order.Bounds.Basic

/-!
Fences by their offsets. Where a fence opens, where its line ends and where it closes can be told of
a text as a whole, without the pieces that the reader cuts it into. The search of the reader comes
to the first such offsets behind the place where it starts.
-/

namespace FencedChat

/-- The first number from `p` on that has a property. -/
def FirstFrom (P : Nat → Prop) (p i : Nat) : Prop := IsLeast {j | p ≤ j ∧ P j} i

namespace FirstFrom

variable {P : Nat → Prop} {p i j : Nat}

theorem le (h : FirstFrom P p i) : p ≤ i := h.1.1

theorem holds (h : FirstFrom P p i) : P i := h.1.2

theorem least (h : FirstFrom P p i) (hp : p ≤ j) (hj : P j) : i ≤ j := h.2 ⟨hp, hj⟩

theorem unique (h : FirstFrom P p i) (h' : FirstFrom P p j) : i = j := IsLeast.unique h h'

theorem of_add {k : Nat} (hk : P (p + k)) (h : ∀ m < k, ¬ P (p + m)) : FirstFrom P p (p + k) := by
  refine ⟨⟨Nat.le_add_right p k, hk⟩, ?_⟩
  rintro j ⟨hp, hj⟩
  obtain ⟨m, rfl⟩ := Nat.exists_eq_add_of_le hp
  by_contra hlt
  exact h m (by omega) hj

end FirstFrom

namespace Fence

/-- Three backticks stand at the offset. -/
def MarkerAt (s : List Char) (i : Nat) : Prop := marker <+: s.drop i

def NewlineAt (s : List Char) (i : Nat) : Prop := s[i]? = some '\n'

/-- A fence opens at the offset: three backticks at the start of the text or behind a blank, in a
line that ends. -/
structure OpensAt (s : List Char) (o : Nat) : Prop where
  marker : MarkerAt s o
  apart : o = 0 ∨ ∃ c ∈ s[o - 1]?, isBlank c = true
  ends : ∃ n, o + 3 ≤ n ∧ NewlineAt s n

/-- The first fence from `p` on opens at `o`, its line ends at `n`, and it closes at `m`. -/
structure BlockAt (s : List Char) (p o n m : Nat) : Prop where
  opening : FirstFrom (OpensAt s) p o
  newline : FirstFrom (NewlineAt s) (o + 3) n
  closing : FirstFrom (MarkerAt s) (n + 1) m

variable {a b s t body rest passed : List Char} {prev : Option Char} {c : Char} {o : Opening}

theorem BlockAt.lt {p o n m : Nat} (h : BlockAt s p o n m) : p < m + 3 := by
  have ho := h.opening.le
  have hn := h.newline.le
  have hm := h.closing.le
  omega

theorem BlockAt.le_length {p o n m : Nat} (h : BlockAt s p o n m) : m + 3 ≤ s.length := by
  have hlength := h.closing.holds.length_le
  have hm : m + marker.length ≤ s.length := by
    rw [List.length_drop] at hlength
    have hpos : 0 < marker.length := by decide
    omega
  exact hm

theorem markerAt_append (a b : List Char) (k : Nat) :
    MarkerAt (a ++ b) (a.length + k) ↔ marker <+: b.drop k := by
  rw [MarkerAt, List.drop_length_add_append]

theorem newlineAt_append (a b : List Char) (k : Nat) :
    NewlineAt (a ++ b) (a.length + k) ↔ b[k]? = some '\n' := by
  rw [NewlineAt, List.getElem?_append_right (Nat.le_add_right _ _), Nat.add_sub_cancel_left]

/-- Behind a place a line ends where the rest of the text holds a newline. -/
theorem exists_newlineAt_append (a b : List Char) (k : Nat) :
    (∃ n, a.length + k ≤ n ∧ NewlineAt (a ++ b) n) ↔ '\n' ∈ b.drop k := by
  simp only [List.mem_iff_getElem?, List.getElem?_drop]
  constructor
  · rintro ⟨n, hle, hn⟩
    obtain ⟨m, rfl⟩ := Nat.exists_eq_add_of_le hle
    rw [Nat.add_assoc, newlineAt_append] at hn
    exact ⟨m, hn⟩
  · rintro ⟨m, hm⟩
    exact ⟨a.length + (k + m), by omega, (newlineAt_append a b _).mpr hm⟩

theorem apart_append (a b : List Char) :
    (a.length = 0 ∨ ∃ c ∈ (a ++ b)[a.length - 1]?, isBlank c = true) ↔
      mayFollow a.getLast? = true := by
  cases a using List.reverseRecOn with
  | nil => simp [mayFollow]
  | append_singleton a c => simp [mayFollow]

/-- A fence opens at a place exactly if the reader takes it for an opening fence there. -/
theorem opensAt_append (a b : List Char) :
    OpensAt (a ++ b) a.length ↔ ∃ t, start? a.getLast? b = some t ∧ '\n' ∈ t := by
  constructor
  · intro h
    obtain ⟨t, rfl⟩ := (markerAt_append a b 0).mp h.marker
    refine ⟨t, start?_marker ((apart_append a _).mp h.apart) t, ?_⟩
    exact (exists_newlineAt_append a (marker ++ t) 3).mp h.ends
  · rintro ⟨t, hs, hn⟩
    obtain ⟨rfl, hf⟩ := start?_eq_some hs
    refine ⟨(markerAt_append a _ 0).mpr (List.prefix_append _ _), (apart_append a _).mpr hf, ?_⟩
    exact (exists_newlineAt_append a (marker ++ t) 3).mpr hn

theorem opensAt_append_cons (a b : List Char) (c : Char) (k : Nat) :
    OpensAt (a ++ c :: b) (a.length + (k + 1)) ↔
    OpensAt (a ++ [c] ++ b) ((a ++ [c]).length + k) := by
  have hk : (a ++ [c]).length + k = a.length + (k + 1) := by
    rw [List.length_append, List.length_singleton]
    omega
  rw [hk, List.append_assoc, List.singleton_append]

theorem openingAt?_eq_none (h : openingAt? passed s = none) : '\n' ∉ s := by
  intro hn
  obtain ⟨line, rest, rfl, hline⟩ := List.eq_append_cons_of_mem hn
  simp [openingAt?, line?_append hline] at h

theorem findOpening?_cons_of_start?_eq_none (h : start? prev (c :: s) = none) :
    findOpening? prev [] (c :: s) =
      (findOpening? (some c) [] s).map fun o => { o with before := c :: o.before } := by
  rw [findOpening?, h]
  exact findOpening?_passed (some c) [c] s

/-- Where the search finds nothing, no fence opens. -/
theorem not_opensAt_of_findOpening?_eq_none (h : findOpening? a.getLast? [] b = none) (k : Nat) :
    ¬ OpensAt (a ++ b) (a.length + k) := by
  induction b generalizing a k with
  | nil =>
    intro ho
    have hm := (markerAt_append a [] k).mp ho.marker
    rw [List.drop_nil] at hm
    exact absurd (List.prefix_nil.mp hm) (by decide)
  | cons c b ih =>
    cases hs : start? a.getLast? (c :: b) with
    | some t =>
      -- the line of this fence does not end, so that of a later one does not either
      rw [findOpening?, hs] at h
      obtain ⟨ht, -⟩ := start?_eq_some hs
      intro ho
      have hn := (exists_newlineAt_append a (c :: b) (k + 3)).mp ho.ends
      rw [ht, Nat.add_comm, ← List.drop_drop] at hn
      exact openingAt?_eq_none h (List.mem_of_mem_drop hn)
    | none =>
      rw [findOpening?_cons_of_start?_eq_none hs, Option.map_eq_none_iff] at h
      cases k with
      | zero =>
        rw [Nat.add_zero, opensAt_append, hs]
        simp
      | succ k =>
        rw [opensAt_append_cons]
        apply ih
        rwa [List.getLast?_concat]

/-- The search finds the first offset at which a fence opens. -/
theorem firstFrom_opensAt (h : findOpening? a.getLast? [] b = some o) :
    FirstFrom (OpensAt (a ++ b)) a.length (a.length + o.before.length) := by
  induction b generalizing a o with
  | nil => simp [findOpening?] at h
  | cons c b ih =>
    cases hs : start? a.getLast? (c :: b) with
    | some t =>
      rw [findOpening?, hs] at h
      obtain ⟨hbefore, l, -, -, ht, -⟩ := openingAt?_eq_some h
      have hn : '\n' ∈ t := by simp [ht]
      rw [hbefore]
      apply FirstFrom.of_add
      · exact (opensAt_append a (c :: b)).mpr ⟨t, hs, hn⟩
      · exact fun m hm => absurd hm (Nat.not_lt_zero m)
    | none =>
      rw [findOpening?_cons_of_start?_eq_none hs] at h
      obtain ⟨o, ho, rfl⟩ := Option.map_eq_some_iff.mp h
      have hrest := ih (a := a ++ [c]) (by rwa [List.getLast?_concat])
      apply FirstFrom.of_add
      · rw [List.length_cons, opensAt_append_cons]
        exact hrest.holds
      · intro m hm
        cases m with
        | zero =>
          rw [Nat.add_zero, opensAt_append, hs]
          simp
        | succ m =>
          rw [opensAt_append_cons]
          intro hopens
          have hle := hrest.least (Nat.le_add_right _ _) hopens
          rw [List.length_cons] at hm
          omega

/-- What is left of the line behind the tag, without the blanks and tabs at its start. -/
theorem hint_findOpening? (h : findOpening? prev passed s = some o) :
    o.hint = ((o.line.drop 3).drop o.tag.length).dropWhile fun c => c == ' ' || c == '\t' := by
  induction s generalizing prev passed with
  | nil => simp [findOpening?] at h
  | cons c s ih =>
    unfold findOpening? at h
    split at h
    · unfold openingAt? at h
      split at h
      · simp at h
      · obtain rfl := Option.some.inj h
        rfl
    · exact ih h

theorem firstFrom_newlineAt {line : List Char} (h : '\n' ∉ line) (a rest : List Char) :
    FirstFrom (NewlineAt (a ++ (line ++ '\n' :: rest))) a.length (a.length + line.length) := by
  apply FirstFrom.of_add
  · rw [newlineAt_append, List.getElem?_append_right (Nat.le_refl _), Nat.sub_self]
    rfl
  · intro m hm
    rw [newlineAt_append, List.getElem?_append_left hm]
    exact fun hn => h (List.mem_of_getElem? hn)

theorem splitAtMarker?_eq_none (h : splitAtMarker? passed s = none) (k : Nat) :
    ¬ marker <+: s.drop k := by
  fun_induction splitAtMarker? passed s generalizing k with
  | case1 => simp at h
  | case2 passed c s hc ih =>
    cases k with
    | zero =>
      rintro ⟨t, ht⟩
      obtain ⟨rfl, rfl⟩ := List.cons.inj ht
      exact hc t rfl rfl
    | succ k => exact ih h k
  | case3 =>
    rw [List.drop_nil, List.prefix_nil]
    decide

theorem firstFrom_markerAt (h : splitAtMarker? [] s = some (body, rest)) (a : List Char) :
    FirstFrom (MarkerAt (a ++ s)) a.length (a.length + body.length) := by
  obtain ⟨rfl, hm⟩ := eq_of_splitAtMarker? h
  apply FirstFrom.of_add
  · rw [markerAt_append, List.drop_left]
    exact List.prefix_append _ _
  · intro k hk
    rw [markerAt_append, List.drop_append_of_le_length (Nat.le_of_lt hk)]
    intro hp
    -- a marker that starts in the body ends at the second backtick behind it or before
    have htwo : body.drop k ++ ['`', '`'] <+: body.drop k ++ (marker ++ rest) :=
      (List.prefix_append_right_inj _).mpr ⟨'`' :: rest, rfl⟩
    have hin := List.prefix_of_prefix_length_le hp htwo (by simp [marker]; omega)
    apply hm
    rw [← List.drop_append_of_le_length (Nat.le_of_lt hk)] at hin
    exact hin.isInfix.trans (List.drop_suffix k _).isInfix

/-- The text up to the backticks of a fence, the rest of their line and the text behind it. -/
theorem append_eq_line (h : findOpening? prev [] b = some o) (a : List Char) :
    ∃ l, o.line = marker ++ l ∧ '\n' ∉ l ∧ o.tag = l.takeWhile isWordChar ∧
      a ++ b = a ++ o.before ++ marker ++ (l ++ '\n' :: o.body) := by
  obtain ⟨before, l, hbefore, hb, hl, hn, htag⟩ := findOpening?_eq_some h
  obtain rfl : o.before = before := hbefore
  refine ⟨l, hl, hn, htag, ?_⟩
  simp [hb, hl]

/-- The text up to the end of the line of a fence and the text behind it. -/
theorem append_eq_body (h : findOpening? prev [] b = some o) (a : List Char) :
    a ++ b = a ++ o.before ++ o.line ++ ['\n'] ++ o.body := by
  rw [eq_of_findOpening? h]
  simp only [List.append_assoc]

theorem length_body_start (a : List Char) (o : Opening) :
    (a ++ o.before ++ o.line ++ ['\n']).length =
      a.length + o.before.length + o.line.length + 1 := by
  simp only [List.length_append, List.length_singleton]

theorem firstFrom_newlineAt_of_findOpening? (h : findOpening? prev [] b = some o) (a : List Char) :
    FirstFrom (NewlineAt (a ++ b)) (a.length + o.before.length + 3)
      (a.length + o.before.length + o.line.length) := by
  obtain ⟨l, hl, hn, -, hpieces⟩ := append_eq_line h a
  have hfirst := firstFrom_newlineAt hn (a ++ o.before ++ marker) o.body
  have hstart : (a ++ o.before ++ marker).length = a.length + o.before.length + 3 := by
    simp only [List.length_append]
    rfl
  have hline : o.line.length = 3 + l.length := by
    rw [hl, List.length_append]
    rfl
  rwa [← hpieces, hstart, Nat.add_assoc _ 3, ← hline] at hfirst

/-- What the reader takes for a block is one by its offsets. -/
theorem blockAt_of_findOpening? (ho : findOpening? a.getLast? [] b = some o)
    (hb : splitAtMarker? [] o.body = some (body, rest)) :
    BlockAt (a ++ b) a.length (a.length + o.before.length)
      (a.length + o.before.length + o.line.length)
      (a.length + o.before.length + o.line.length + 1 + body.length) := by
  have hclosing := firstFrom_markerAt hb (a ++ o.before ++ o.line ++ ['\n'])
  rw [← append_eq_body ho a, length_body_start] at hclosing
  exact ⟨firstFrom_opensAt ho, firstFrom_newlineAt_of_findOpening? ho a, hclosing⟩

/-- A fence that the reader does not see closed is not closed anywhere. -/
theorem not_markerAt_of_open (ho : findOpening? a.getLast? [] b = some o)
    (hb : splitAtMarker? [] o.body = none) {m : Nat}
    (hm : a.length + o.before.length + o.line.length < m) : ¬ MarkerAt (a ++ b) m := by
  obtain ⟨k, rfl⟩ := Nat.exists_eq_add_of_lt hm
  rw [append_eq_body ho a, Nat.add_right_comm, ← length_body_start, markerAt_append]
  exact splitAtMarker?_eq_none hb k

theorem exists_findOpening? {p : Nat} (h : FirstFrom (OpensAt (a ++ b)) a.length p) :
    ∃ o, findOpening? a.getLast? [] b = some o ∧ p = a.length + o.before.length := by
  cases ho : findOpening? a.getLast? [] b with
  | none =>
    obtain ⟨k, rfl⟩ := Nat.exists_eq_add_of_le h.le
    exact absurd h.holds (not_opensAt_of_findOpening?_eq_none ho k)
  | some o => exact ⟨o, rfl, h.unique (firstFrom_opensAt ho)⟩

/-- The reader comes to every block that there is by its offsets. -/
theorem BlockAt.exists_pieces {p n m : Nat} (h : BlockAt (a ++ b) a.length p n m) :
    ∃ o body rest, findOpening? a.getLast? [] b = some o ∧
      splitAtMarker? [] o.body = some (body, rest) ∧ p = a.length + o.before.length ∧
      n = p + o.line.length ∧ m = n + 1 + body.length := by
  obtain ⟨o, ho, rfl⟩ := exists_findOpening? h.opening
  obtain rfl := h.newline.unique (firstFrom_newlineAt_of_findOpening? ho a)
  cases hb : splitAtMarker? [] o.body with
  | none => exact absurd h.closing.holds (not_markerAt_of_open ho hb h.closing.le)
  | some split =>
    obtain ⟨body, rest⟩ := split
    obtain rfl := h.closing.unique (blockAt_of_findOpening? ho hb).closing
    exact ⟨o, body, rest, ho, hb, rfl, rfl, rfl⟩

end Fence

end FencedChat
