import FencedChat.Screen.TextArea
import Mathlib.Data.List.Infix

/-!
What a text area gives back of the text that is loaded into it: the same lines, with one kind of
line end between them. So any area that keeps the lines of a text gives back the text itself exactly
if that is written in this way.
-/

namespace FencedChat.TextArea

def lineEnds : List (List Char) := [['\r', '\n'], ['\n'], ['\r']]

/-- The text consists of lines with one kind of line end between them, and no other line end
occurs. -/
def OneLineEnd (s : String) : Prop :=
  ∃ e ∈ lineEnds, ∃ lines : List (List Char),
    (∀ l ∈ lines, ∀ c ∈ l, isLineEnd c = false) ∧ s.toList = e.intercalate lines

variable {e l rest s : List Char} {ls : List (List Char)}

theorem intercalate_cons (e l : List Char) (ls : List (List Char)) :
    e.intercalate (l :: ls) = l ++ ls.flatMap (e ++ ·) := by
  induction ls generalizing l with
  | nil => simp
  | cons m ms ih =>
    rw [List.intercalate_cons_cons, ih, List.flatMap_cons, List.append_assoc, List.append_assoc]

theorem ne_newline {c : Char} (h : isLineEnd c = false) : c ≠ '\n' := by
  rintro rfl
  contradiction

theorem ne_carriageReturn {c : Char} (h : isLineEnd c = false) : c ≠ '\r' := by
  rintro rfl
  contradiction

theorem splitLinesOnto_of_lineEnd {line : List Char} {c : Char} (hc : isLineEnd c = true)
    (hn : c = '\r' → rest.head? ≠ some '\n') :
    splitLinesOnto line (c :: rest) = line.reverse :: splitLinesOnto [] rest := by
  rw [splitLinesOnto]
  · rw [if_pos hc]
  · rintro r rfl rfl
    exact hn rfl rfl

theorem splitLinesOnto_of_not_lineEnd {line : List Char} {c : Char} (hc : isLineEnd c = false) :
    splitLinesOnto line (c :: rest) = splitLinesOnto (c :: line) rest := by
  rw [splitLinesOnto]
  · rw [hc]
    rfl
  · rintro r rfl
    exact absurd rfl (ne_carriageReturn hc)

/-- The lines of a text hold no line end. -/
theorem lineEnd_notMem_splitLinesOnto (s : List Char) {line : List Char}
    (hl : ∀ c ∈ line, isLineEnd c = false) :
    ∀ l ∈ splitLinesOnto line s, ∀ c ∈ l, isLineEnd c = false := by
  have hr : ∀ c ∈ line.reverse, isLineEnd c = false := fun c hc => hl c (List.mem_reverse.mp hc)
  fun_induction splitLinesOnto line s <;> grind

theorem splitLinesOnto_append (hl : ∀ c ∈ l, isLineEnd c = false) (line rest : List Char) :
    splitLinesOnto line (l ++ rest) = splitLinesOnto (l.reverse ++ line) rest := by
  induction l generalizing line with
  | nil => rfl
  | cons c cs ih =>
    rw [List.forall_mem_cons] at hl
    rw [List.cons_append, splitLinesOnto_of_not_lineEnd hl.1, ih hl.2]
    simp

/-- A line, its end and what follows. -/
theorem splitLines_append_end (he : e ∈ lineEnds) (hl : ∀ c ∈ l, isLineEnd c = false)
    (hr : e = ['\r'] → rest.head? ≠ some '\n') :
    splitLines (l ++ (e ++ rest)) = l :: splitLines rest := by
  rw [splitLines, splitLinesOnto_append hl]
  simp only [lineEnds, List.mem_cons, List.not_mem_nil, or_false] at he
  obtain rfl | rfl | rfl := he
  · simp [splitLinesOnto, splitLines]
  · rw [List.singleton_append, splitLinesOnto_of_lineEnd rfl (by simp)]
    simp [splitLines]
  · rw [List.singleton_append, splitLinesOnto_of_lineEnd rfl fun _ => hr rfl]
    simp [splitLines]

theorem splitLinesOnto_ne_nil {line : List Char} (h : line ≠ [] ∨ s ≠ []) :
    splitLinesOnto line s ≠ [] := by
  fun_induction splitLinesOnto line s <;> simp_all

theorem chars_eq_intercalate (t : TextArea) : t.chars = t.lineEnd.intercalate t.lines :=
  (intercalate_cons ..).symm

theorem linesOf_ne_nil (h : s ≠ []) : linesOf s ≠ [] := by
  have hs : splitLines s ≠ [] := splitLinesOnto_ne_nil (.inr h)
  unfold linesOf
  split <;> simp [hs]

theorem hasPairedEnd_iff : hasPairedEnd s = true ↔ ['\r', '\n'] <:+: s := by
  fun_induction hasPairedEnd s with
  | case1 r => exact ⟨fun _ => ⟨[], r, rfl⟩, fun _ => rfl⟩
  | case2 c r hp ih =>
    rw [ih, List.infix_cons_iff]
    refine (or_iff_right ?_).symm
    rintro ⟨q, hq⟩
    obtain ⟨rfl, rfl⟩ := List.cons.inj hq
    exact hp q rfl rfl
  | case3 => simp

theorem lineEndOf_mem (s : List Char) : lineEndOf s ∈ lineEnds := by
  unfold lineEndOf
  split_ifs <;> simp [lineEnds]

/-- The only line ends in lines that are joined are those between them. -/
theorem mem_of_lineEnd {c : Char} (hc : isLineEnd c = true)
    (hls : ∀ l ∈ ls, ∀ c ∈ l, isLineEnd c = false) (hm : c ∈ e.intercalate ls) : c ∈ e := by
  cases ls with
  | nil => simp at hm
  | cons l ls =>
    rw [intercalate_cons] at hm
    grind

theorem lineEndOf_intercalate {m : List Char} (he : e ∈ lineEnds)
    (hls : ∀ n ∈ l :: m :: ls, ∀ c ∈ n, isLineEnd c = false) :
    lineEndOf (e.intercalate (l :: m :: ls)) = e := by
  have hi : e <:+: e.intercalate (l :: m :: ls) :=
    ⟨l, e.intercalate (m :: ls), List.intercalate_cons_cons.symm⟩
  generalize hs : e.intercalate (l :: m :: ls) = s at hi
  have hn : '\n' ∈ s → '\n' ∈ e := fun h => mem_of_lineEnd rfl hls (hs ▸ h)
  have hr : '\r' ∈ s → '\r' ∈ e := fun h => mem_of_lineEnd rfl hls (hs ▸ h)
  have hp : hasPairedEnd s = true → '\r' ∈ e ∧ '\n' ∈ e := fun h =>
    have hi := (hasPairedEnd_iff.mp h).subset
    ⟨hr (hi (by simp)), hn (hi (by simp))⟩
  have hm := hi.subset
  simp only [lineEnds, List.mem_cons, List.not_mem_nil, or_false] at he
  unfold lineEndOf
  obtain rfl | rfl | rfl := he
  · rw [if_pos (hasPairedEnd_iff.mpr hi)]
  · rw [if_neg (by simpa using hp), if_pos (by simpa using hm)]
  · rw [if_neg (by simpa using hp), if_neg (by simpa using hn), if_pos (by simpa using hm)]

theorem keepsLines_ofText : KeepsLines ofText where
  lines s := by
    unfold ofText
    dsimp only
    split
    · rename_i h
      rw [if_pos (not_ne_iff.mp fun hs => linesOf_ne_nil hs h)]
      rfl
    · rename_i l ls h
      rw [h, if_neg]
      · rfl
      · intro hs
        rw [hs] at h
        cases h
  lineEnd s := by
    simp only [ofText]
    split <;> rfl

namespace KeepsLines

variable {load : String → TextArea}

theorem lines_ofList (h : KeepsLines load) (s : List Char) :
    (load (.ofList s)).lines = if s = [] then [[]] else linesOf s := by
  rw [h.lines, String.toList_ofList]

theorem lines_single (h : KeepsLines load) (hl : ∀ c ∈ l, isLineEnd c = false) :
    (load (.ofList l)).lines = [l] := by
  rw [h.lines_ofList]
  split_ifs with hn
  · rw [hn]
  · have hs : splitLines l = [l] := by
      have ha := splitLinesOnto_append hl [] []
      rw [List.append_nil] at ha
      simp [splitLines, ha, splitLinesOnto, hn]
    have hm : ∀ c, l.getLast? = some c → isLineEnd c = false :=
      fun c hc => hl c (List.mem_of_getLast? hc)
    unfold linesOf
    split
    · exact absurd (hm _ ‹_›) (by decide)
    · exact absurd (hm _ ‹_›) (by decide)
    · exact hs

theorem lines_append_end (h : KeepsLines load) (he : e ∈ lineEnds)
    (hl : ∀ c ∈ l, isLineEnd c = false) (hr : e = ['\r'] → rest.head? ≠ some '\n') :
    (load (.ofList (l ++ (e ++ rest)))).lines = l :: (load (.ofList rest)).lines := by
  have hs := splitLines_append_end he hl hr
  have hne : e ≠ [] := by rintro rfl; simp [lineEnds] at he
  rw [h.lines_ofList, h.lines_ofList, if_neg (by simp [hne])]
  by_cases hn : rest = []
  · have hlast :
        (l ++ (e ++ rest)).getLast? = some '\n' ∨ (l ++ (e ++ rest)).getLast? = some '\r' := by
      simp only [lineEnds, List.mem_cons, List.not_mem_nil, or_false] at he
      obtain rfl | rfl | rfl := he <;> simp [hn]
    have hl' : splitLines (l ++ (e ++ rest)) = [l] := by rw [hs, hn]; rfl
    rw [if_pos hn]
    unfold linesOf
    obtain hlast | hlast := hlast <;> simp only [hlast, hl'] <;> rfl
  · have hlast : (l ++ (e ++ rest)).getLast? = rest.getLast? := by
      rw [← List.append_assoc, List.getLast?_append_of_ne_nil _ hn]
    rw [if_neg hn]
    unfold linesOf
    rw [hlast, hs]
    split <;> rfl

/-- The lines of a text with one kind of line end. -/
theorem lines_intercalate (h : KeepsLines load) (he : e ∈ lineEnds)
    (ls : List (List Char)) (hl : ∀ c ∈ l, isLineEnd c = false)
    (hls : ∀ m ∈ ls, ∀ c ∈ m, isLineEnd c = false) :
    (load (.ofList (e.intercalate (l :: ls)))).lines = l :: ls := by
  induction ls generalizing l with
  | nil => exact (congrArg _ (by simp)).trans (h.lines_single hl)
  | cons m ms ih =>
    rw [List.forall_mem_cons] at hls
    rw [List.intercalate_cons_cons, List.append_assoc, h.lines_append_end he hl, ih hls.1 hls.2]
    -- Were the end a lone carriage return and a newline behind it, the two would be one end.
    rintro rfl
    rw [intercalate_cons]
    cases m with
    | nil => cases ms <;> simp
    | cons c cs => simpa using ne_newline (hls.1 c List.mem_cons_self)

/-- Whatever text is loaded, what the area gives back is written with one kind of line end. -/
theorem oneLineEnd_text (h : KeepsLines load) (s : String) : OneLineEnd (load s).text := by
  refine ⟨(load s).lineEnd, ?_, (load s).lines, ?_, ?_⟩
  · rw [h.lineEnd]
    exact lineEndOf_mem _
  · have hs : ∀ l ∈ splitLinesOnto [] s.toList, ∀ c ∈ l, isLineEnd c = false :=
      lineEnd_notMem_splitLinesOnto s.toList (by simp)
    have hs' : ∀ l ∈ linesOf s.toList, ∀ c ∈ l, isLineEnd c = false := by
      unfold linesOf splitLines
      split <;> simpa [or_imp, forall_and] using hs
    rw [h.lines]
    split_ifs
    · simp
    · exact hs'
  · rw [text, String.toList_ofList, chars_eq_intercalate]

/-- The texts that a text area gives back as they were loaded. -/
theorem text_iff (h : KeepsLines load) (s : String) : (load s).text = s ↔ OneLineEnd s := by
  constructor
  · intro hs
    rw [← hs]
    exact h.oneLineEnd_text s
  · rintro ⟨e, he, ls, hls, hs⟩
    have ht : (load s).text.toList = s.toList := by
      rw [text, String.toList_ofList, chars_eq_intercalate]
      obtain rfl : s = .ofList (e.intercalate ls) := by rw [← hs, String.ofList_toList]
      match ls with
      | [] =>
        rw [h.lines_ofList, if_pos (by simp)]
        simp
      | [l] =>
        rw [h.lines_intercalate he [] (hls l (by simp)) (by simp)]
        simp
      | l :: m :: ms =>
        have hl := h.lines_intercalate he (m :: ms) (hls l (by simp)) (by grind)
        rw [hl, h.lineEnd, hs, lineEndOf_intercalate he hls]
    exact String.toList_inj.mp ht

end KeepsLines

theorem oneLineEnd_text_ofText (s : String) : OneLineEnd (ofText s).text :=
  keepsLines_ofText.oneLineEnd_text s

theorem text_ofText_iff (s : String) : (ofText s).text = s ↔ OneLineEnd s :=
  keepsLines_ofText.text_iff s

/-- What an area gives back it gives back again. -/
theorem text_ofText_text (s : String) : (ofText (ofText s).text).text = (ofText s).text :=
  (text_ofText_iff _).mpr (oneLineEnd_text_ofText s)

instance (s : String) : Decidable (OneLineEnd s) := decidable_of_iff _ (text_ofText_iff s)

end FencedChat.TextArea
