import FencedChat.Proofs.Message.Prose
import Mathlib.Data.List.SplitBy

/-!
Inline code by the runs of backticks. A text is cut into its longest runs of backticks and the texts
between them. From the left, two single backticks with a text on one line between them make that
text inline code; a run that does not open inline code is text itself.
-/

namespace FencedChat.Prose

def sameKind (a b : Char) : Bool := (a == '`') == (b == '`')

/-- The longest runs of backticks and the texts between them, in order. -/
def chunks (s : List Char) : List (List Char) := s.splitBy sameKind

/-- Runs of backticks and texts without backticks in turn. -/
structure Chunked (cs : List (List Char)) : Prop where
  ne_nil : ∀ w ∈ cs, w ≠ []
  uniform : ∀ w ∈ cs, '`' ∈ w → ∀ c ∈ w, c = '`'
  alternate : cs.IsChain fun v w => ('`' ∈ v ↔ '`' ∉ w)

/-- The segments of chunks. `passed` is the text since the last inline code. -/
def ofChunks (passed : List Char) : List (List Char) → List Segment
  | first :: code :: next :: rest =>
    if first = ['`'] ∧ next = ['`'] ∧ '\n' ∉ code then
      lines passed ++ .inlineCode (String.ofList code) :: ofChunks [] rest
    else ofChunks (passed ++ first) (code :: next :: rest)
  | rest => lines (passed ++ rest.flatten)

variable {prev : Option Char} {s t v w code rest passed : List Char} {cs : List (List Char)}

theorem sameKind_iff (a b : Char) : sameKind a b = true ↔ (a = '`' ↔ b = '`') := by
  rw [sameKind, beq_iff_eq, Bool.eq_iff_iff, beq_iff_eq, beq_iff_eq]

theorem uniform_of_isChain (h : w.IsChain fun a b => sameKind a b = true) :
    '`' ∈ w → ∀ c ∈ w, c = '`' := by
  induction w with
  | nil => simp
  | cons a w ih =>
    obtain ⟨hhead, htail⟩ := List.isChain_cons.mp h
    intro hw
    cases w with
    | nil => simpa [eq_comm] using hw
    | cons b w =>
      have hab := (sameKind_iff a b).mp (hhead b rfl)
      have hb : '`' ∈ b :: w := by
        rcases List.mem_cons.mp hw with ha | hb
        · exact hab.mp ha.symm ▸ List.mem_cons_self
        · exact hb
      have hall := ih htail hb
      have ha : a = '`' := hab.mpr (hall b List.mem_cons_self)
      exact List.forall_mem_cons.mpr ⟨ha, hall⟩

theorem chunked_chunks (s : List Char) : Chunked (chunks s) := by
  have hne : ∀ w ∈ chunks s, w ≠ [] := fun w hw => List.ne_nil_of_mem_splitBy hw
  have huniform : ∀ w ∈ chunks s, '`' ∈ w → ∀ c ∈ w, c = '`' :=
    fun w hw => uniform_of_isChain (List.isChain_of_mem_splitBy hw)
  refine ⟨hne, huniform, ?_⟩
  apply (List.isChain_getLast_head_splitBy sameKind s).imp_of_mem_imp
  rintro v w hv hw ⟨hv', hw', hkind⟩
  have hlast : '`' ∈ v ↔ v.getLast hv' = '`' :=
    ⟨fun h => huniform v hv h _ (List.getLast_mem hv'), fun h => h ▸ List.getLast_mem hv'⟩
  have hhead : '`' ∈ w ↔ w.head hw' = '`' :=
    ⟨fun h => huniform w hw h _ (List.head_mem hw'), fun h => h ▸ List.head_mem hw'⟩
  rw [← Bool.not_eq_true, sameKind_iff] at hkind
  rw [hlast, hhead]
  tauto

theorem flatten_chunks (s : List Char) : (chunks s).flatten = s := List.flatten_splitBy sameKind s

namespace Chunked

theorem tail (h : Chunked (w :: cs)) : Chunked cs where
  ne_nil v hv := h.ne_nil v (List.mem_cons_of_mem w hv)
  uniform v hv := h.uniform v (List.mem_cons_of_mem w hv)
  alternate := h.alternate.tail

theorem head_uniform (h : Chunked (w :: cs)) : '`' ∈ w → ∀ c ∈ w, c = '`' :=
  h.uniform w List.mem_cons_self

theorem next (h : Chunked (w :: cs)) : ∀ v ∈ cs.head?, '`' ∈ w ↔ '`' ∉ v :=
  (List.isChain_cons.mp h.alternate).1

/-- What follows a backtick at the end of a chunk is a text. -/
theorem next_of_getLast? (h : Chunked (w :: cs)) (hprev : w.getLast?.or prev = some '`') :
    ∀ v ∈ cs.head?, '`' ∉ v := by
  intro v hv
  have hlast : w.getLast? = some '`' := by
    rwa [List.getLast?_eq_some_getLast (h.ne_nil w List.mem_cons_self)] at hprev ⊢
  exact (h.next v hv).mp (List.mem_of_getLast? hlast)

theorem head?_flatten (h : Chunked cs) (htext : ∀ v ∈ cs.head?, '`' ∉ v) :
    cs.flatten.head? ≠ some '`' := by
  cases cs with
  | nil => simp
  | cons w cs =>
    obtain ⟨c, w, rfl⟩ := List.exists_cons_of_ne_nil (h.ne_nil w List.mem_cons_self)
    have hc : '`' ∉ c :: w := htext _ rfl
    rw [List.flatten_cons, List.cons_append, List.head?_cons]
    intro he
    obtain rfl := Option.some.inj he
    exact hc List.mem_cons_self

end Chunked

theorem inlineCode?_code (hne : code ≠ []) (hb : '`' ∉ code) (hn : '\n' ∉ code) (rest : List Char) :
    inlineCode? (code ++ '`' :: rest) = if rest.head? = some '`' then none
      else some (code, rest) := by
  have hcode : (code ++ '`' :: rest).takeWhile (fun c => c != '`' && c != '\n') = code := by
    rw [List.takeWhile_append_of_pos]
    · simp
    · intro c hc
      simp only [Bool.and_eq_true, bne_iff_ne]
      exact ⟨fun h => hb (h ▸ hc), fun h => hn (h ▸ hc)⟩
  simp only [inlineCode?, hcode, List.isEmpty_iff, if_neg hne, List.drop_left]
  cases rest with
  | nil => rfl
  | cons c rest =>
    by_cases hc : c = '`'
    · simp [hc]
    · simp [hc]

/-- Inline code does not open when the next backtick stands on another line. -/
theorem inlineCode?_newline (hb : '`' ∉ t) (hn : '\n' ∈ t) (s : List Char) :
    inlineCode? (t ++ s) = none := by
  cases h : inlineCode? (t ++ s) with
  | none => rfl
  | some found =>
    obtain ⟨code, rest⟩ := found
    obtain ⟨hts, -, -, hcode⟩ := inlineCode?_eq_some h
    -- the code would end behind the newline
    have hprefix : code <+: t ++ s := ⟨'`' :: rest, hts.symm⟩
    rcases List.prefix_or_prefix_of_prefix hprefix (List.prefix_append t s) with hle | hle
    · obtain ⟨u, rfl⟩ := hle
      rw [List.append_assoc, List.append_cancel_left_eq] at hts
      cases u with
      | nil =>
        rw [List.append_nil] at hn
        exact absurd hn hcode
      | cons c u =>
        obtain ⟨rfl, -⟩ := List.cons.inj hts
        simp at hb
    · exact absurd (hle.subset hn) hcode

theorem inlineCode?_of_notMem (h : '`' ∉ s) : inlineCode? s = none := by
  cases hs : inlineCode? s with
  | none => rfl
  | some found =>
    obtain ⟨rfl, -⟩ := inlineCode?_eq_some hs
    simp at h

/-- No inline code opens at a run of backticks, unless the run and the next one are single and on
one line. -/
theorem inlineCode?_chunks (h : Chunked (('`' :: t) :: cs))
    (hlines : ∀ code rest, t = [] → cs = code :: ['`'] :: rest → '\n' ∈ code) :
    inlineCode? (t ++ cs.flatten) = none := by
  cases t with
  | cons c t =>
    have hc : c = '`' := h.head_uniform List.mem_cons_self c (by simp)
    rw [hc]
    rfl
  | nil =>
    cases cs with
    | nil => rfl
    | cons code cs =>
      have hb : '`' ∉ code := (h.next code rfl).mp List.mem_cons_self
      rw [List.nil_append, List.flatten_cons]
      by_cases hn : '\n' ∈ code
      · exact inlineCode?_newline hb hn _
      · cases cs with
        | nil =>
          rw [List.flatten_nil, List.append_nil]
          exact inlineCode?_of_notMem hb
        | cons run rest =>
          have hrun : '`' ∈ run := not_not.mp (mt (h.tail.next run rfl).mpr hb)
          have hall := h.tail.tail.head_uniform hrun
          obtain ⟨d, u, rfl⟩ := List.exists_cons_of_ne_nil (List.ne_nil_of_mem hrun)
          obtain rfl : d = '`' := hall d List.mem_cons_self
          cases u with
          | nil => exact absurd (hlines code rest rfl rfl) hn
          | cons d u =>
            obtain rfl : d = '`' := hall d (by simp)
            have hne : code ≠ [] := h.tail.ne_nil code List.mem_cons_self
            rw [List.flatten_cons, List.cons_append, inlineCode?_code hne hb hn]
            exact if_pos rfl

/-- A chunk at which no inline code opens is passed. -/
theorem segmentsOnto_chunk (hw : '`' ∈ w → ∀ c ∈ w, c = '`')
    (hopen : ∀ t, w = '`' :: t → prev ≠ some '`' → inlineCode? (t ++ s) = none) :
    segmentsOnto prev passed (w ++ s) =
      segmentsOnto (w.getLast?.or prev) (w.reverse ++ passed) s := by
  induction w generalizing prev passed with
  | nil => rfl
  | cons c w ih =>
    have hlast : (c :: w).getLast?.or prev = w.getLast?.or (some c) := by
      rw [List.getLast?_cons]
      cases w.getLast? <;> rfl
    rw [List.cons_append, segmentsOnto_cons_text, ih, hlast, List.reverse_cons, List.append_assoc,
      List.singleton_append]
    · exact fun h d hd => hw (List.mem_cons_of_mem c h) d (List.mem_cons_of_mem c hd)
    · -- behind a backtick no inline code opens
      rintro t rfl hc
      have hcb : c = '`' := hw (by simp) c List.mem_cons_self
      exact absurd (congrArg some hcb) hc
    · rintro ⟨rfl, hprev⟩
      exact hopen w rfl hprev

/-- A chunk that does not open inline code is passed. -/
theorem segmentsOnto_flatten_cons (h : Chunked (w :: cs))
    (hlines : ∀ code rest, w = ['`'] → cs = code :: ['`'] :: rest → '\n' ∈ code)
    (passed : List Char) :
    segmentsOnto prev passed.reverse (w :: cs).flatten =
      segmentsOnto (w.getLast?.or prev) (passed ++ w).reverse cs.flatten := by
  rw [List.flatten_cons, segmentsOnto_chunk h.head_uniform, List.reverse_append]
  rintro t rfl -
  apply inlineCode?_chunks h
  rintro code rest rfl rfl
  exact hlines code rest rfl rfl

theorem segmentsOnto_flatten (h : Chunked cs) (hp : prev = some '`' → ∀ v ∈ cs.head?, '`' ∉ v) :
    segmentsOnto prev passed.reverse cs.flatten = ofChunks passed cs := by
  fun_induction ofChunks passed cs generalizing prev with
  | case1 passed first code next rest hinline ih =>
    obtain ⟨rfl, rfl, hn⟩ := hinline
    have hprev : prev ≠ some '`' := fun he => hp he _ rfl List.mem_cons_self
    have hb : '`' ∉ code := (h.next code rfl).mp List.mem_cons_self
    have hne : code ≠ [] := h.tail.ne_nil code List.mem_cons_self
    have hrest : ∀ v ∈ rest.head?, '`' ∉ v := fun v hv =>
      (h.tail.tail.next v hv).mp List.mem_cons_self
    have hcode : inlineCode? (code ++ '`' :: rest.flatten) = some (code, rest.flatten) := by
      rw [inlineCode?_code hne hb hn, if_neg (h.tail.tail.tail.head?_flatten hrest)]
    have hpieces :
        (['`'] :: code :: ['`'] :: rest).flatten = '`' :: (code ++ '`' :: rest.flatten) := rfl
    have hih : segmentsOnto (some '`') [] rest.flatten = ofChunks [] rest :=
      ih h.tail.tail.tail fun _ => hrest
    rw [hpieces, segmentsOnto_cons_inlineCode ⟨rfl, hprev⟩ hcode, List.reverse_reverse, hih]
  | case2 passed first code next rest hinline ih =>
    rw [segmentsOnto_flatten_cons h, ih h.tail h.next_of_getLast?]
    rintro code' rest' hfirst hcs
    obtain ⟨rfl, hrest⟩ := List.cons.inj hcs
    obtain ⟨hnext, -⟩ := List.cons.inj hrest
    by_contra hn
    exact hinline ⟨hfirst, hnext, hn⟩
  | case3 passed cs hshort =>
    -- with fewer than three chunks there is no pair of runs
    match cs, hshort with
    | [], _ => rw [List.flatten_nil, segmentsOnto, List.reverse_reverse, List.append_nil]
    | [w], _ =>
      rw [segmentsOnto_flatten_cons h (by simp), List.flatten_nil, segmentsOnto,
        List.reverse_reverse, List.flatten_singleton]
    | [v, w], _ =>
      rw [segmentsOnto_flatten_cons h (by simp), segmentsOnto_flatten_cons h.tail (by simp),
        List.flatten_nil, segmentsOnto, List.reverse_reverse, List.flatten_cons,
        List.flatten_singleton,
        List.append_assoc]
    | first :: code :: next :: rest, hshort => exact absurd rfl (hshort first code next rest)

theorem segments_eq_ofChunks (s : List Char) : segments s = ofChunks [] (chunks s) := by
  have h : segmentsOnto none ([] : List Char).reverse (chunks s).flatten = ofChunks [] (chunks s) :=
    segmentsOnto_flatten (chunked_chunks s) (by simp)
  rwa [flatten_chunks] at h

theorem inlineCode_notMem_lines (text : String) (s : List Char) : .inlineCode text ∉ lines s := by
  intro h
  obtain he | ⟨t, he⟩ := eq_lineBreak_or_text_of_mem_linesOnto h
  · exact Segment.noConfusion he
  · exact Segment.noConfusion he

/-- Inline code of chunks stands between two single backticks. -/
theorem exists_of_mem_ofChunks {text : String} (h : .inlineCode text ∈ ofChunks passed cs) :
    ∃ before after, cs = before ++ ['`'] :: text.toList :: ['`'] :: after := by
  fun_induction ofChunks passed cs with
  | case1 passed first code next rest hinline ih =>
    obtain ⟨rfl, rfl, -⟩ := hinline
    rcases List.mem_append.mp h with h | h
    · exact absurd h (inlineCode_notMem_lines text passed)
    · rcases List.mem_cons.mp h with h | h
      · obtain rfl := Segment.inlineCode.inj h
        exact ⟨[], rest, by rw [String.toList_ofList]; rfl⟩
      · obtain ⟨before, after, rfl⟩ := ih h
        exact ⟨['`'] :: code :: ['`'] :: before, after, rfl⟩
  | case2 passed first code next rest _ ih =>
    obtain ⟨before, after, hcs⟩ := ih h
    exact ⟨first :: before, after, congrArg (first :: ·) hcs⟩
  | case3 passed cs _ => exact absurd h (inlineCode_notMem_lines text _)

/-- Inline code is what stands between two single backticks, where they are next to each other among
the runs and on one line, taken in pairs from the left. -/
theorem segments_by_runs (s : List Char) :
    (Chunked (chunks s) ∧ (chunks s).flatten = s) ∧
    segments s = ofChunks [] (chunks s) ∧
    ∀ text, .inlineCode text ∈ segments s →
      ∃ before after, chunks s = before ++ ['`'] :: text.toList :: ['`'] :: after := by
  refine ⟨⟨chunked_chunks s, flatten_chunks s⟩, segments_eq_ofChunks s, fun text h => ?_⟩
  rw [segments_eq_ofChunks] at h
  exact exists_of_mem_ofChunks h

example : ofChunks [] (chunks "a `b` ``c`` `d\n`e`".toList) =
    [.text "a ", .inlineCode "b", .text " ``c`` `d", .lineBreak, .inlineCode "e"] := by rfl

end FencedChat.Prose
