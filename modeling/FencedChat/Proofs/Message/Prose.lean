import FencedChat.Proofs.Message.Slices

/-!
What prose consists of. Its lines stand between its newlines, and text without backticks is nothing
but its lines.
-/

namespace FencedChat.Prose

variable {prev : Option Char} {c : Char} {line passed r s code rest : List Char}

/-- A line without the carriage return at its end, which belongs to the break behind it. -/
def shownLine (line : List Char) : List Char :=
  if line.getLast? = some '\r' then line.dropLast else line

def ofLines : List (List Char) → List Segment
  | [] => []
  | [line] => textSegment line.reverse
  | line :: rest => textSegment (shownLine line).reverse ++ .lineBreak :: ofLines rest

/-- Lines hold text and line breaks only. -/
theorem eq_lineBreak_or_text_of_mem_linesOnto {x : Segment}
    (h : x ∈ linesOnto line s) : x = .lineBreak ∨ ∃ t, x = .text t := by
  have htext {line : List Char} (h : x ∈ textSegment line) : x = .lineBreak ∨ ∃ t, x = .text t := by
    unfold textSegment at h
    split at h
    · exact absurd h List.not_mem_nil
    · exact .inr ⟨_, List.mem_singleton.mp h⟩
  fun_induction linesOnto line s with
  | case1 line => exact htext h
  | case2 line s ih | case3 line s ih =>
    rcases List.mem_append.mp h with h | h
    · exact htext h
    · rcases List.mem_cons.mp h with h | h
      · exact .inl h
      · exact ih h
  | case4 line c s _ _ ih => exact ih h

theorem linesOnto_of_notMem (h : '\n' ∉ s) (line : List Char) :
    linesOnto line s = textSegment (s.reverse ++ line) := by
  fun_induction linesOnto line s with
  | case1 line => rfl
  | case2 line r _ => exact absurd List.mem_cons_self h
  | case3 line r _ => exact absurd (List.mem_cons_of_mem _ List.mem_cons_self) h
  | case4 line c r _ _ ih =>
    rw [ih fun hr => h (List.mem_cons_of_mem c hr), List.reverse_cons, List.append_assoc]
    rfl

theorem shownLine_cons {c : Char} (h : s ≠ [] ∨ c ≠ '\r') :
    shownLine (c :: s) = c :: shownLine s := by
  cases s with
  | nil =>
    have hc : c ≠ '\r' := h.resolve_left fun hs => hs rfl
    simp [shownLine, hc]
  | cons d s =>
    unfold shownLine
    rw [List.getLast?_cons_cons]
    split
    · rfl
    · rfl

/-- A line ends at its newline, and a carriage return before that is not shown. -/
theorem linesOnto_append_newline (h : '\n' ∉ s) (line rest : List Char) :
    linesOnto line (s ++ '\n' :: rest) =
      textSegment ((shownLine s).reverse ++ line) ++ .lineBreak :: lines rest := by
  induction s generalizing line with
  | nil => rfl
  | cons c s ih =>
    rw [List.mem_cons, not_or] at h
    by_cases hs : s = [] ∧ c = '\r'
    · obtain ⟨rfl, rfl⟩ := hs
      rfl
    · have hc : s ≠ [] ∨ c ≠ '\r' := by rwa [← not_and_or]
      rw [shownLine_cons hc, List.cons_append, linesOnto, ih h.2, List.reverse_cons,
        List.append_assoc, List.singleton_append]
      · exact fun he => h.1 he.symm
      · -- a carriage return before the newline would end the line
        intro r hr hs'
        rcases hc with hs | hc
        · obtain ⟨d, t, rfl⟩ := List.exists_cons_of_ne_nil hs
          obtain ⟨rfl, -⟩ := List.cons.inj hs'
          exact h.2 List.mem_cons_self
        · exact hc hr

theorem ofLines_cons {rest : List (List Char)} (h : rest ≠ []) (line : List Char) :
    ofLines (line :: rest) = textSegment (shownLine line).reverse ++ .lineBreak ::
      ofLines rest := by
  cases rest with
  | nil => exact absurd rfl h
  | cons l rest => rfl

theorem lines_eq_ofLines (s : List Char) : lines s = ofLines (s.splitOn '\n') := by
  by_cases h : '\n' ∈ s
  · obtain ⟨line, rest, rfl, hl⟩ := List.eq_append_cons_of_mem h
    rw [List.splitOn_append_cons_self_of_not_mem hl, ofLines_cons (List.splitOn_ne_nil _ _), lines,
      linesOnto_append_newline hl, List.append_nil, lines_eq_ofLines rest]
  · rw [List.splitOn_eq_singleton h, lines, linesOnto_of_notMem h, List.append_nil]
    rfl
termination_by s.length

theorem segmentsOnto_cons_inlineCode (hc : c = '`' ∧ prev ≠ some '`')
    (hi : inlineCode? r = some (code, rest)) :
    segmentsOnto prev passed (c :: r) =
      lines passed.reverse ++
        .inlineCode (String.ofList code) :: segmentsOnto (some '`') [] rest := by
  rw [segmentsOnto, if_pos hc]
  split
  · rename_i code' rest' hi'
    obtain ⟨rfl, rfl⟩ := Prod.mk.inj (Option.some.inj (hi.symm.trans hi'))
    rfl
  · rename_i hi'
    simp [hi] at hi'

theorem segmentsOnto_cons_text (h : (c = '`' ∧ prev ≠ some '`') → inlineCode? r = none) :
    segmentsOnto prev passed (c :: r) = segmentsOnto (some c) (c :: passed) r := by
  rw [segmentsOnto]
  split
  · rename_i hc
    split
    · rename_i hi
      simp [h hc] at hi
    · rfl
  · rfl

theorem segmentsOnto_of_notMem (h : '`' ∉ s) (prev : Option Char) (passed : List Char) :
    segmentsOnto prev passed s = lines (passed.reverse ++ s) := by
  induction s generalizing prev passed with
  | nil => rw [segmentsOnto, List.append_nil]
  | cons c s ih =>
    rw [List.mem_cons, not_or] at h
    rw [segmentsOnto_cons_text fun hb => absurd hb.1.symm h.1, ih h.2, List.reverse_cons,
      List.append_assoc, List.singleton_append]

/-- Text without backticks holds no inline code. -/
theorem segments_of_notMem (h : '`' ∉ s) : segments s = lines s := segmentsOnto_of_notMem h none []

end FencedChat.Prose
