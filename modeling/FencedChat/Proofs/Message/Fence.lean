import FencedChat.Message.Fence
import Mathlib.Data.List.Basic
import Mathlib.Data.List.Infix
import Mathlib.Data.List.TakeWhile

/-!
Where fences stand in a text. An opening fence is found with all the text around it, and the body
behind it runs to the first marker, so the pieces that the reader takes apart are the text again.
-/

namespace FencedChat.Fence

/-- The three backticks of a fence. -/
def marker : List Char := ['`', '`', '`']

variable {prev : Option Char} {before passed s body rest line : List Char} {o : Opening}

theorem drop_length_takeWhile (p : Char → Bool) (s : List Char) :
    s.drop (s.takeWhile p).length = s.dropWhile p := by
  have h := List.prefix_iff_eq_append.mp (List.takeWhile_prefix (l := s) p)
  exact List.append_cancel_left (h.trans List.takeWhile_append_dropWhile.symm)

/-- A line ends at the first newline. -/
theorem line?_eq_some (h : line? s = some (line, rest)) :
    s = line ++ '\n' :: rest ∧ '\n' ∉ line := by
  unfold line? at h
  simp only [drop_length_takeWhile] at h
  split at h
  · simp at h
  · rename_i c r hd
    obtain ⟨rfl, rfl⟩ := Prod.mk.inj (Option.some.inj h)
    have hc : c = '\n' := by
      have := List.head?_dropWhile_not (fun x => decide (x ≠ '\n')) s
      rw [hd] at this
      simpa using this
    subst hc
    refine ⟨?_, fun hm => ?_⟩
    · rw [← hd, List.takeWhile_append_dropWhile]
    · simpa using List.mem_takeWhile_imp hm

theorem line?_append (h : '\n' ∉ line) (rest : List Char) :
    line? (line ++ '\n' :: rest) = some (line, rest) := by
  have hw : (line ++ '\n' :: rest).takeWhile (fun c => decide (c ≠ '\n')) = line := by
    rw [List.takeWhile_append_of_pos]
    · simp
    · intro c hc
      apply decide_eq_true
      rintro rfl
      exact h hc
  simp only [line?, hw, List.drop_left]

theorem openingAt?_eq_some (h : openingAt? before s = some o) :
    o.before = before ∧ ∃ l, o.line = marker ++ l ∧ '\n' ∉ l ∧ s = l ++ '\n' :: o.body ∧
      o.tag = l.takeWhile isWordChar := by
  unfold openingAt? at h
  split at h
  · simp at h
  · rename_i l r hl
    obtain rfl := Option.some.inj h
    obtain ⟨hs, hn⟩ := line?_eq_some hl
    exact ⟨rfl, l, rfl, hn, hs, rfl⟩

theorem start?_marker (h : mayFollow prev = true) (s : List Char) :
    start? prev (marker ++ s) = some s := by
  simp [start?, marker, h]

theorem start?_of_not_mayFollow (h : mayFollow prev = false) (s : List Char) :
    start? prev s = none := by
  unfold start?
  split
  · simp [h]
  · rfl

theorem start?_of_no_marker (h : ¬ marker <+: s) (prev : Option Char) : start? prev s = none := by
  unfold start?
  split
  · rename_i t
    exact absurd ⟨t, rfl⟩ h
  · rfl

theorem start?_eq_some {t : List Char} (h : start? prev s = some t) :
    s = marker ++ t ∧ mayFollow prev = true := by
  unfold start? at h
  split at h
  · obtain ⟨hp, he⟩ := Option.ite_none_right_eq_some.mp h
    exact ⟨congrArg (marker ++ ·) (Option.some.inj he), hp⟩
  · simp at h

/-- The line of an opening fence stands between the text before it and its body. -/
theorem findOpening?_eq_some (h : findOpening? prev passed s = some o) :
    ∃ b l, o.before = passed.reverse ++ b ∧ s = b ++ o.line ++ '\n' :: o.body ∧
      o.line = marker ++ l ∧ '\n' ∉ l ∧ o.tag = l.takeWhile isWordChar := by
  induction s generalizing prev passed with
  | nil => simp [findOpening?] at h
  | cons c r ih =>
    unfold findOpening? at h
    split at h
    · rename_i t ht
      obtain ⟨hb, l, hl, hn, rfl, htag⟩ := openingAt?_eq_some h
      refine ⟨[], l, by rw [hb, List.append_nil], ?_, hl, hn, htag⟩
      rw [(start?_eq_some ht).1, hl, List.nil_append, List.append_assoc]
    · obtain ⟨b, l, hb, rfl, hl, hn, htag⟩ := ih h
      refine ⟨c :: b, l, ?_, rfl, hl, hn, htag⟩
      rw [hb, List.reverse_cons, List.append_assoc, List.singleton_append]

/-- The text before the first fence, its line and its body make up the text. -/
theorem eq_of_findOpening? (h : findOpening? prev [] s = some o) :
    s = o.before ++ o.line ++ ['\n'] ++ o.body := by
  obtain ⟨b, _, hbefore, hs, -⟩ := findOpening?_eq_some h
  obtain rfl : o.before = b := hbefore
  rw [hs, List.append_cons]

theorem findOpening?_congr (prev prev' : Option Char) (h : mayFollow prev = mayFollow prev')
    (passed s : List Char) : findOpening? prev passed s = findOpening? prev' passed s := by
  cases s with
  | nil => rfl
  | cons c r => simp only [findOpening?, start?, h]

/-- The text that was passed stands before the opening fence. -/
theorem findOpening?_append_passed (prev : Option Char) (passed before s : List Char) :
    findOpening? prev (passed ++ before) s =
      (findOpening? prev passed s).map fun o =>
        { o with before := before.reverse ++ o.before } := by
  induction s generalizing prev passed with
  | nil => rfl
  | cons c r ih =>
    simp only [findOpening?]
    split
    · rename_i t _
      unfold openingAt?
      split
      · rfl
      · simp only [List.reverse_append, Option.map_some]
    · exact ih (some c) (c :: passed)

theorem findOpening?_passed (prev : Option Char) (passed s : List Char) :
    findOpening? prev passed s =
      (findOpening? prev [] s).map fun o => { o with before := passed.reverse ++ o.before } := by
  simpa using findOpening?_append_passed prev [] passed s

/-- Text without backticks is passed. -/
theorem findOpening?_append_of_notMem {p : List Char} (h : '`' ∉ p) (prev : Option Char)
    (passed s : List Char) :
    findOpening? prev passed (p ++ s) =
      findOpening? (p.getLast?.or prev) (p.reverse ++ passed) s := by
  induction p generalizing prev passed with
  | nil => rfl
  | cons c p ih =>
    rw [List.mem_cons, not_or] at h
    have hc : ¬ marker <+: c :: (p ++ s) := by
      rintro ⟨t, ht⟩
      exact h.1 (List.cons.inj ht).1
    rw [List.cons_append, findOpening?, start?_of_no_marker hc]
    dsimp only
    rw [ih h.2, List.reverse_cons, List.append_assoc, List.singleton_append, List.getLast?_cons]
    cases p.getLast? <;> rfl

theorem findOpening?_marker {prev : Option Char} (h : mayFollow prev = true)
    (passed s : List Char) :
    findOpening? prev passed (marker ++ s) = openingAt? passed.reverse s := by
  have hs := start?_marker h s
  unfold marker at hs ⊢
  simp only [List.cons_append, List.nil_append] at hs ⊢
  rw [findOpening?, hs]

/-- A body runs to the first marker: none starts before its end. -/
theorem splitAtMarker?_eq_some (h : splitAtMarker? passed s = some (body, rest)) :
    ∃ b, body = passed.reverse ++ b ∧ s = b ++ marker ++ rest ∧ ¬ marker <:+: b ++ ['`', '`'] := by
  fun_induction splitAtMarker? passed s with
  | case1 passed r =>
    obtain ⟨rfl, rfl⟩ := Prod.mk.inj (Option.some.inj h)
    exact ⟨[], by rw [List.append_nil], rfl, by decide⟩
  | case2 passed c r hc ih =>
    obtain ⟨b, hb, rfl, hm⟩ := ih h
    refine ⟨c :: b, ?_, rfl, ?_⟩
    · rw [hb, List.reverse_cons, List.append_assoc, List.singleton_append]
    · rw [List.cons_append, List.infix_cons_iff, not_or]
      refine ⟨fun hp => ?_, hm⟩
      -- a marker that starts here would have been found
      obtain ⟨t, ht⟩ := hp
      obtain ⟨rfl, he⟩ := List.cons.inj ht
      apply hc (t ++ '`' :: rest) rfl
      calc b ++ marker ++ rest = b ++ ['`', '`'] ++ '`' :: rest := by simp [marker]
        _ = '`' :: '`' :: (t ++ '`' :: rest) := by rw [← he]; rfl
  | case3 => simp at h

/-- The text before the first marker, the marker and the rest make up the text. -/
theorem eq_of_splitAtMarker? (h : splitAtMarker? [] s = some (body, rest)) :
    s = body ++ (marker ++ rest) ∧ ¬ marker <:+: body ++ ['`', '`'] := by
  obtain ⟨b, hb, hs, hm⟩ := splitAtMarker?_eq_some h
  obtain rfl : body = b := hb
  exact ⟨by rw [hs, List.append_assoc], hm⟩

theorem splitAtMarker?_cons {c : Char} (h : ¬ marker <+: c :: s) (passed : List Char) :
    splitAtMarker? passed (c :: s) = splitAtMarker? (c :: passed) s := by
  rw [splitAtMarker?]
  rintro r rfl rfl
  exact h ⟨r, rfl⟩

/-- A text is split at a marker when none starts before it. -/
theorem splitAtMarker?_append_marker (h : ¬ marker <:+: body ++ ['`', '`'])
    (passed rest : List Char) :
    splitAtMarker? passed (body ++ (marker ++ rest)) = some (passed.reverse ++ body, rest) := by
  induction body generalizing passed with
  | nil =>
    rw [List.nil_append, List.append_nil]
    rfl
  | cons c body ih =>
    rw [List.cons_append, List.infix_cons_iff, not_or] at h
    -- a marker at the start would lie before the two backticks that begin the next one
    have hc : ¬ marker <+: c :: (body ++ (marker ++ rest)) := by
      intro hp
      apply h.1
      apply List.prefix_of_prefix_length_le hp ⟨'`' :: rest, by simp [marker]⟩
      simp [marker]
    rw [List.cons_append, splitAtMarker?_cons hc, ih h.2, List.reverse_cons, List.append_assoc,
      List.singleton_append]

theorem prefix_append_cons {w x y : List Char} {a : Char} (h : w <+: x ++ a :: y) (ha : a ∉ w) :
    w <+: x := by
  rcases List.prefix_or_prefix_of_prefix h (List.prefix_append x (a :: y)) with hw | ⟨v, rfl⟩
  · exact hw
  · have hv : v <+: a :: y := (List.prefix_append_right_inj x).mp h
    rcases List.prefix_cons_iff.mp hv with rfl | ⟨t, rfl, -⟩
    · rw [List.append_nil]
    · exact absurd (List.mem_append_right x List.mem_cons_self) ha

/-- What does not hold the character between two texts stands in one of them. -/
theorem infix_append_cons {w x y : List Char} {a : Char} (h : w <:+: x ++ a :: y) (ha : a ∉ w) :
    w <:+: x ∨ w <:+: y := by
  induction x with
  | nil =>
    rcases List.infix_cons_iff.mp h with h | h
    · exact .inl (prefix_append_cons (x := []) h ha).isInfix
    · exact .inr h
  | cons b x ih =>
    rcases List.infix_cons_iff.mp h with h | h
    · exact .inl (prefix_append_cons (x := b :: x) h ha).isInfix
    · rcases ih h with h | h
      · exact .inl (h.trans (List.suffix_cons b x).isInfix)
      · exact .inr h

/-- Code that holds no marker ends at the marker on the next line. -/
theorem splitAtMarker?_newline_marker {code : List Char} (h : ¬ marker <:+: code)
    (rest : List Char) :
    splitAtMarker? [] (code ++ '\n' :: (marker ++ rest)) = some (code ++ ['\n'], rest) := by
  rw [List.append_cons]
  apply splitAtMarker?_append_marker
  rw [List.append_assoc]
  intro hm
  rcases infix_append_cons hm (by decide) with hm | hm
  · exact h hm
  · exact absurd hm (by decide)

/-- At most one line end is taken off a body. -/
theorem withoutLastNewline_append (body : List Char) :
    ∃ ending ∈ [[], ['\n'], ['\r', '\n']], withoutLastNewline body ++ ending = body := by
  unfold withoutLastNewline
  split
  · rename_i r hr
    exact ⟨['\r', '\n'], by simp, by rw [← List.reverse_reverse body, hr]; simp⟩
  · rename_i r hr
    exact ⟨['\n'], by simp, by rw [← List.reverse_reverse body, hr]; simp⟩
  · exact ⟨[], by simp, List.append_nil body⟩

theorem withoutLastNewline_append_newline {body : List Char} (h : body.getLast? ≠ some '\r') :
    withoutLastNewline (body ++ ['\n']) = body := by
  have hr := List.reverse_reverse body
  rw [← List.head?_reverse] at h
  unfold withoutLastNewline
  rw [List.reverse_append]
  cases hb : body.reverse with
  | nil =>
    rw [hb] at hr
    rw [← hr]
    rfl
  | cons c t =>
    rw [hb] at h hr
    have hc : c ≠ '\r' := by simpa using h
    rw [← hr]
    simp [hc]

end FencedChat.Fence
