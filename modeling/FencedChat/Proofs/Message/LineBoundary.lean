import FencedChat.Proofs.Message.Prose
import FencedChat.Proofs.Message.Reading

/-!
Reading from line to line. What is read up to the end of a line does not depend on what follows: a
fence opens on one line, inline code stays on one line, and behind a newline a fence may open as at
the start of a message. So a text that ends a line can be read by itself, unless one of its fences
never closes.
-/

namespace FencedChat

/-- A text whose last character is a newline. -/
def EndsLine (s : List Char) : Prop := s.getLast? = some '\n'

instance : DecidablePred EndsLine := fun s => inferInstanceAs (Decidable (s.getLast? = some '\n'))

namespace EndsLine

variable {c : Char} {s t : List Char}

theorem ne_nil (h : EndsLine s) : s ≠ [] := by
  rintro rfl
  simp [EndsLine] at h

theorem mem (h : EndsLine s) : '\n' ∈ s := List.mem_of_getLast? h

/-- A text ends a line with its first character or with its rest. -/
theorem cons_cases (h : EndsLine (c :: s)) : (c = '\n' ∧ s = []) ∨ EndsLine s := by
  cases s with
  | nil =>
    left
    exact ⟨Option.some.inj h, rfl⟩
  | cons d s =>
    right
    rwa [EndsLine, List.getLast?_cons_cons] at h

theorem of_cons (h : EndsLine (c :: s)) (hc : c ≠ '\n') : EndsLine s := by
  rcases h.cons_cases with ⟨he, -⟩ | h
  · exact absurd he hc
  · exact h

theorem of_append (h : EndsLine (s ++ t)) (hs : ¬ EndsLine s) : EndsLine t := by
  unfold EndsLine at h hs ⊢
  rw [List.getLast?_append] at h
  cases ht : t.getLast? with
  | none =>
    rw [ht] at h
    exact absurd h hs
  | some d => rwa [ht] at h

theorem of_append_cons (h : EndsLine (s ++ c :: t)) (hc : c ≠ '\n') : EndsLine t := by
  rw [List.append_cons] at h
  apply h.of_append
  simpa [EndsLine] using hc

variable {p : Char → Bool}

theorem takeWhile_append (h : EndsLine s) (hp : p '\n' = false) (t : List Char) :
    (s ++ t).takeWhile p = s.takeWhile p := by
  rw [List.takeWhile_append, if_neg]
  intro hl
  have hs : s.takeWhile p = s := (List.takeWhile_sublist p).eq_of_length hl
  have hn := List.mem_takeWhile_imp (hs ▸ h.mem)
  simp [hp] at hn

theorem dropWhile_append (h : EndsLine s) (hp : p '\n' = false) (t : List Char) :
    (s ++ t).dropWhile p = s.dropWhile p ++ t := by
  rw [List.dropWhile_append, if_neg]
  intro he
  have hn := List.dropWhile_eq_nil_iff.mp (List.isEmpty_iff.mp he) _ h.mem
  simp [hp] at hn

theorem dropWhile (h : EndsLine s) (hp : p '\n' = false) : EndsLine (s.dropWhile p) := by
  rw [← List.takeWhile_append_dropWhile (p := p) (l := s)] at h
  apply h.of_append
  intro hw
  have := List.mem_takeWhile_imp hw.mem
  simp [hp] at this

end EndsLine

namespace Fence

variable {prev : Option Char} {before passed s line body rest : List Char} {o : Opening}

theorem openingAt?_append (h : openingAt? before s = some o) (t : List Char) :
    openingAt? before (s ++ t) = some { o with body := o.body ++ t } := by
  unfold openingAt? at h
  split at h
  · simp at h
  · rename_i line rest hl
    obtain rfl := Option.some.inj h
    obtain ⟨rfl, hn⟩ := line?_eq_some hl
    rw [List.append_assoc, List.cons_append, openingAt?, line?_append hn]

/-- The line of a fence ends in every text that ends a line. -/
theorem openingAt?_ne_none (h : EndsLine s) (before : List Char) : openingAt? before s ≠ none := by
  obtain ⟨line, rest, rfl, hn⟩ := List.eq_append_cons_of_mem h.mem
  simp [openingAt?, line?_append hn]

/-- No three backticks reach over the end of a line. -/
theorem start?_append (h : EndsLine s) (prev : Option Char) (t : List Char) :
    start? prev (s ++ t) = (start? prev s).map (· ++ t) := by
  by_cases hp : marker <+: s
  · obtain ⟨u, rfl⟩ := hp
    rw [List.append_assoc]
    cases hf : mayFollow prev with
    | true =>
      rw [start?_marker hf, start?_marker hf]
      rfl
    | false =>
      rw [start?_of_not_mayFollow hf, start?_of_not_mayFollow hf]
      rfl
  · have hp' : ¬ marker <+: s ++ t := by
      intro h'
      rcases List.prefix_or_prefix_of_prefix h' (List.prefix_append s t) with hs | hs
      · exact hp hs
      · have hn : '\n' ∈ marker := hs.subset h.mem
        exact absurd hn (by decide)
    rw [start?_of_no_marker hp, start?_of_no_marker hp']
    rfl

theorem endsLine_of_start? {t : List Char} (h : EndsLine s) (hs : start? prev s = some t) :
    EndsLine t := by
  obtain ⟨rfl, -⟩ := start?_eq_some hs
  exact h.of_append (by decide)

/-- Text that follows the end of a line is searched for a fence when there is none before. -/
theorem findOpening?_append (h : EndsLine s) (prev : Option Char) (passed t : List Char) :
    findOpening? prev passed (s ++ t) =
      match findOpening? prev passed s with
      | some o => some { o with body := o.body ++ t }
      | none => findOpening? (some '\n') (s.reverse ++ passed) t := by
  induction s generalizing prev passed with
  | nil => exact absurd rfl h.ne_nil
  | cons c r ih =>
    rw [List.cons_append, findOpening?, findOpening?, ← List.cons_append, start?_append h]
    cases hs : start? prev (c :: r) with
    | some u =>
      have hu := endsLine_of_start? h hs
      obtain ⟨o, ho⟩ := Option.ne_none_iff_exists'.mp (openingAt?_ne_none hu passed.reverse)
      simp only [Option.map_some, ho, openingAt?_append ho]
    | none =>
      simp only [Option.map_none]
      rcases h.cons_cases with ⟨rfl, rfl⟩ | hr
      · rfl
      · rw [ih hr, List.reverse_cons, List.append_assoc, List.singleton_append]

theorem splitAtMarker?_append (h : splitAtMarker? passed s = some (body, rest)) (t : List Char) :
    splitAtMarker? passed (s ++ t) = some (body, rest ++ t) := by
  obtain ⟨b, rfl, rfl, hb⟩ := splitAtMarker?_eq_some h
  rw [List.append_assoc, List.append_assoc, splitAtMarker?_append_marker hb]

end Fence

namespace Prose

variable {prev prev' : Option Char} {line passed s t : List Char}

theorem linesOnto_append (h : EndsLine s) (line t : List Char) :
    linesOnto line (s ++ t) = linesOnto line s ++ lines t := by
  fun_induction linesOnto line s with
  | case1 line => exact absurd rfl h.ne_nil
  | case2 line r ih =>
    rw [List.cons_append, linesOnto, List.append_assoc, List.cons_append]
    rcases h.cons_cases with ⟨-, rfl⟩ | hr
    · rfl
    · rw [ih hr]
  | case3 line r ih =>
    rw [List.cons_append, List.cons_append, linesOnto, List.append_assoc, List.cons_append]
    rcases (h.of_cons (by decide)).cons_cases with ⟨-, rfl⟩ | hr
    · rfl
    · rw [ih hr]
  | case4 line c r hc hcr ih =>
    have hr : EndsLine r := h.of_cons hc
    rw [← ih hr, List.cons_append, linesOnto]
    · exact hc
    · -- what follows a carriage return is the same with and without the text behind
      rintro u rfl hu
      obtain ⟨d, r, rfl⟩ := List.exists_cons_of_ne_nil hr.ne_nil
      obtain ⟨rfl, -⟩ := List.cons.inj hu
      exact hcr r rfl rfl

theorem lines_append (h : EndsLine s) (t : List Char) : lines (s ++ t) = lines s ++ lines t :=
  linesOnto_append h [] t

/-- Inline code and what follows it are found within the line. -/
theorem inlineCode?_append (h : EndsLine s) (t : List Char) :
    inlineCode? (s ++ t) = (inlineCode? s).map fun (code, rest) => (code, rest ++ t) := by
  have hd := h.dropWhile (p := fun c => c != '`' && c != '\n') rfl
  have hwt := h.takeWhile_append (p := fun c => c != '`' && c != '\n') rfl t
  have hdt := h.dropWhile_append (p := fun c => c != '`' && c != '\n') rfl t
  simp only [inlineCode?, Fence.drop_length_takeWhile]
  rw [hwt, hdt]
  split
  · rfl
  · generalize s.dropWhile (fun c => c != '`' && c != '\n') = d at hd
    rcases d with _ | ⟨a, _ | ⟨b, d⟩⟩
    · exact absurd rfl hd.ne_nil
    · obtain rfl : a = '\n' := Option.some.inj hd
      rfl
    · by_cases ha : a = '`'
      · by_cases hb : b = '`'
        · simp [ha, hb]
        · simp [ha, hb]
      · simp [ha]

theorem segmentsOnto_congr (prev prev' : Option Char) (h : prev ≠ some '`') (h' : prev' ≠ some '`')
    (passed s : List Char) :
    segmentsOnto prev passed s = segmentsOnto prev' passed s := by
  cases s with
  | nil => simp only [segmentsOnto]
  | cons c r =>
    unfold segmentsOnto
    simp only [ne_eq, h, h', not_false_eq_true, and_true]

/-- Lines that were passed are read before the text behind them. -/
theorem segmentsOnto_append_passed (h : EndsLine t) (prev : Option Char) (passed s : List Char) :
    segmentsOnto prev (passed ++ t.reverse) s = lines t ++ segmentsOnto prev passed s := by
  have hl (x : List Char) : lines (x ++ t.reverse).reverse = lines t ++ lines x.reverse := by
    rw [List.reverse_append, List.reverse_reverse, lines_append h]
  fun_induction segmentsOnto prev passed s with
  | case1 prev passed => rw [segmentsOnto, hl]
  | case2 prev passed c r hc code rest hi _ =>
    rw [segmentsOnto_cons_inlineCode hc hi, hl, List.append_assoc]
  | case3 prev passed c r hc hi ih =>
    rw [segmentsOnto_cons_text fun _ => hi]
    exact ih
  | case4 prev passed c r hc ih =>
    rw [segmentsOnto_cons_text fun h => absurd h hc]
    exact ih

theorem segmentsOnto_append (h : EndsLine s) (prev : Option Char) (passed t : List Char) :
    segmentsOnto prev passed (s ++ t) = segmentsOnto prev passed s ++ segments t := by
  fun_induction segmentsOnto prev passed s with
  | case1 prev passed => exact absurd rfl h.ne_nil
  | case2 prev passed c r hc code rest hi ih =>
    have hr : EndsLine r := h.of_cons (by rw [hc.1]; decide)
    obtain ⟨rfl, -⟩ := inlineCode?_eq_some hi
    have hrest : EndsLine rest := hr.of_append_cons (by decide)
    have hi' := inlineCode?_append hr t
    rw [hi] at hi'
    rw [List.cons_append, segmentsOnto_cons_inlineCode hc hi', ih hrest, List.append_assoc,
      List.cons_append]
  | case3 prev passed c r hc hi ih =>
    have hr : EndsLine r := h.of_cons (by rw [hc.1]; decide)
    have hi' : inlineCode? (r ++ t) = none := by rw [inlineCode?_append hr, hi, Option.map_none]
    rw [List.cons_append, segmentsOnto_cons_text fun _ => hi', ih hr]
  | case4 prev passed c r hc ih =>
    rw [List.cons_append, segmentsOnto_cons_text fun h => absurd h hc]
    rcases h.cons_cases with ⟨rfl, rfl⟩ | hr
    · have hline : EndsLine (passed.reverse ++ ['\n']) := by simp [EndsLine]
      have hpassed := segmentsOnto_append_passed hline none [] t
      rw [List.nil_append, List.reverse_append, List.reverse_reverse] at hpassed
      rw [List.nil_append, segmentsOnto_congr (some '\n') none (by decide) (by decide),
        segmentsOnto, List.reverse_cons]
      exact hpassed
    · exact ih hr

theorem segments_nil : segments [] = [] := segments_of_notMem List.not_mem_nil

theorem segments_append (h : EndsLine s) (t : List Char) :
    segments (s ++ t) = segments s ++ segments t :=
  segmentsOnto_append h none [] t

end Prose

namespace MessageReader

variable (r : MessageReader) {prev : Option Char} {line : Nat} {s body rest : List Char}
    {o : Opening}

/-- A block in lines that are complete ends before the last of them does. -/
theorem endsLine_behind_block (h : EndsLine s) (ho : Fence.findOpening? prev [] s = some o)
    (hb : Fence.splitAtMarker? [] o.body = some (body, rest)) : EndsLine rest := by
  obtain ⟨b, _, -, rfl, -⟩ := Fence.findOpening?_eq_some ho
  obtain ⟨d, -, hbody, -⟩ := Fence.splitAtMarker?_eq_some hb
  have hs : b ++ o.line ++ '\n' :: o.body =
      (b ++ o.line ++ '\n' :: (d ++ ['`', '`'])) ++ '`' :: rest := by
    simp [hbody, Fence.marker]
  rw [hs] at h
  exact h.of_append_cons (by decide)

/-- Behind lines in which no fence opens the text is read as a message of its own. -/
theorem value_readFrom_append_of_eq_none (h : EndsLine s) (hn : Fence.findOpening? prev [] s = none)
    (line line' : Nat) (t : List Char) :
    (r.readFrom prev line (s ++ t)).value =
      Prose.segments s ++ (r.readFrom none line' t).value := by
  have hst : Fence.findOpening? prev [] (s ++ t) =
      (Fence.findOpening? none [] t).map fun o => { o with before := s ++ o.before } := by
    simp only [Fence.findOpening?_append h, hn]
    rw [Fence.findOpening?_passed, List.append_nil, List.reverse_reverse,
      Fence.findOpening?_congr (some '\n') none rfl]
  cases ht : Fence.findOpening? none [] t with
  | none =>
    rw [ht] at hst
    rw [r.value_readFrom_of_eq_none line hst, r.value_readFrom_of_eq_none line' ht,
      Prose.segments_append h]
  | some o =>
    rw [ht] at hst
    cases hb : Fence.splitAtMarker? [] o.body with
    | none =>
      rw [r.value_readFrom_of_open line hst hb, r.value_readFrom_of_open line' ht hb,
        Prose.segments_append h, List.append_assoc]
    | some p =>
      rw [r.value_readFrom_of_closed line 1 hst hb, r.value_readFrom_of_closed line' 1 ht hb,
        Prose.segments_append h, List.append_assoc]
      rfl

theorem value_readFrom_append (hc : FencesClose prev s) (h : EndsLine s) (line line' : Nat)
    (t : List Char) :
    (r.readFrom prev line (s ++ t)).value =
      (r.readFrom prev line s).value ++ (r.readFrom none line' t).value := by
  induction hc generalizing line with
  | prose hn =>
    rw [r.value_readFrom_of_eq_none line hn]
    exact r.value_readFrom_append_of_eq_none h hn line line' t
  | @block prev s o body rest ho hb _ ih =>
    have hrest : EndsLine rest := endsLine_behind_block h ho hb
    have hst := Fence.findOpening?_append h prev [] t
    rw [ho] at hst
    rw [r.value_readFrom_of_closed line line' hst (Fence.splitAtMarker?_append hb t),
      r.value_readFrom_of_closed line line' ho hb, ih hrest line', List.append_assoc]
    rfl

/-- A text that ends a line, with every fence in it closed, is read by itself: what follows it is
read as if it stood alone. -/
theorem read_append (a b : String) (ha : a = "" ∨ EndsLine a.toList)
    (hc : ∀ e ∈ (r.read a).log, ¬ e.ReportsOpenFence) :
    (r.read (a ++ b)).value = (r.read a).value ++ (r.read b).value := by
  rcases ha with rfl | ha
  · have hnone : Fence.findOpening? none [] [] = none := rfl
    have hempty : (r.read "").value = [] :=
      (r.value_readFrom_of_eq_none 1 hnone).trans Prose.segments_nil
    rw [hempty, String.empty_append, List.nil_append]
  · unfold read
    rw [String.toList_append]
    exact r.value_readFrom_append ((r.fencesClose_iff none 1 a.toList).mpr hc) ha 1 1 b.toList

theorem read_append_fences :
    (standard.read ("```py\nx\n```\n" ++ "```\n`y`")).value =
      (standard.read "```py\nx\n```\n").value ++ (standard.read "```\n`y`").value := by
  have ho : Fence.findOpening? none [] "```py\nx\n```\n".toList =
      some ⟨[], ['p', 'y'], [], "```py".toList, "x\n```\n".toList⟩ := rfl
  have hb : Fence.splitAtMarker? [] "x\n```\n".toList = some (['x', '\n'], ['\n']) := rfl
  have hclose : FencesClose none "```py\nx\n```\n".toList := .block ho hb (.prose rfl)
  apply read_append
  · exact .inr (by decide)
  · exact (standard.fencesClose_iff none 1 _).mp hclose

end MessageReader

end FencedChat
