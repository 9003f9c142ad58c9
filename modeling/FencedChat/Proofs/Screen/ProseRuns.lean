import FencedChat.Proofs.Highlight.Views
import FencedChat.Proofs.Text.Blank
import Mathlib.Data.List.DropRight

/-!
The prose between the code blocks of a message. A run of prose is shown as one text, cut behind its
last character that is not blank, and the ranges of its inline code are cut with it. A message is
shown as its code blocks, with the text of each run at the place of the run.
-/

namespace FencedChat

namespace Segment

def prose : Segment → List Char
  | text s => s.toList
  | inlineCode code => code.toList
  | lineBreak => ['\n']
  | codeBlock _ _ => []

def isCodeBlock : Segment → Bool
  | codeBlock _ _ => true
  | _ => false

def codeBlock? : Segment → Option (CodeBlock × String)
  | codeBlock b markup => some (b, markup)
  | _ => none

def proseOf (run : List Segment) : List Char := (run.flatMap prose).filter (· ∉ controlChars)

theorem proseOf_append (before after : List Segment) :
    proseOf (before ++ after) = proseOf before ++ proseOf after := by
  rw [proseOf, List.flatMap_append, List.filter_append]
  rfl

theorem proseOf_cons (s : Segment) (run : List Segment) :
    proseOf (s :: run) = proseOf [s] ++ proseOf run := proseOf_append [s] run

theorem shown_ofSegment? {s : Segment} {p : StyledPiece} (h : StyledText.ofSegment? s = some p) :
    p.shown = proseOf [s] := by
  rw [proseOf, ← showable_eq_filter, List.flatMap_singleton]
  cases s <;> cases h <;> rfl

theorem proseOf_of_ofSegment?_eq_none {s : Segment} (h : StyledText.ofSegment? s = none) :
    proseOf [s] = [] := by
  cases s <;> first | rfl | cases h

theorem charsOf_pieces (run : List Segment) :
    StyledText.charsOf (run.filterMap StyledText.ofSegment?) = proseOf run := by
  induction run with
  | nil => rfl
  | cons s run ih =>
    rw [proseOf_cons, List.filterMap_cons]
    cases h : StyledText.ofSegment? s with
    | none => rw [proseOf_of_ofSegment?_eq_none h, ih, List.nil_append]
    | some p => rw [← shown_ofSegment? h, ← ih]; rfl

end Segment

namespace StyleRange

/-- Whether the range is that of an inline code behind a run of prose: it covers what the text,
which may have been cut, has left of the code. -/
structure Covers (r : StyleRange) (plain : List Char) (before : List Segment)
    (code : String) : Prop where
  behind : plain.take r.start = Segment.proseOf before
  left : plain.extract r.start r.stop =
    (Segment.proseOf [.inlineCode code]).take (plain.length - r.start)
  style : r.style = StyledText.inlineCodeStyle

variable {r : StyleRange} {plain start : List Char} {before : List Segment} {code : String}

theorem Covers.start_eq (h : r.Covers plain before code) (hr : r.start ≤ plain.length) :
    r.start = (Segment.proseOf before).length := by
  rw [← h.behind, List.length_take, Nat.min_eq_left hr]

/-- A range that is cut with its text still covers what is left of its code. -/
theorem Covers.cut (h : r.Covers plain before code) (hs : start <+: plain)
    (hr : r.start ≤ start.length) :
    { r with stop := min r.stop start.length }.Covers start before code where
  behind := by
    rw [← h.behind, List.prefix_iff_eq_take.mp hs, List.take_take, Nat.min_eq_left hr]
  left := by
    have hn := hs.length_le
    calc start.extract r.start (min r.stop start.length)
        = (plain.extract r.start r.stop).take (start.length - r.start) := by
          rw [List.extract_eq_take_drop, List.extract_eq_take_drop, List.take_take]
          nth_rewrite 2 [List.prefix_iff_eq_take.mp hs]
          rw [List.drop_take, List.take_take]
          congr 1
          omega
      _ = (Segment.proseOf [.inlineCode code]).take (start.length - r.start) := by
          rw [h.left, List.take_take, Nat.min_eq_left (Nat.sub_le_sub_right hn _)]
  style := h.style

end StyleRange

namespace StyledText

open Segment

structure Marks (t : StyledText) (run : List Segment) : Prop where
  inside : ∀ r ∈ t.ranges, r.start ≤ r.stop ∧ r.stop ≤ t.plain.length
  apart : t.ranges.Pairwise fun a b => a.stop ≤ b.start
  ofCode : ∀ r ∈ t.ranges, ∃ before code after,
    run = before ++ .inlineCode code :: after ∧ r.Covers t.plain before code
  toRange : ∀ before code after, run = before ++ .inlineCode code :: after → code ≠ "" →
    (proseOf before).length < t.plain.length → ∃ r ∈ t.ranges, r.Covers t.plain before code

variable {t : StyledText} {r : StyleRange} {run : List Segment}

variable {join : List StyledPiece → StyledText}

theorem Joins.plain_prose (h : Joins join) (run : List Segment) :
    (join (run.filterMap ofSegment?)).plain = proseOf run := by
  rw [h.plain_eq, charsOf_pieces]

theorem Joins.mem_ranges_prose (h : Joins join) : r ∈ (join (run.filterMap ofSegment?)).ranges ↔
    ∃ before s after p, run = before ++ s :: after ∧ ofSegment? s = some p ∧
      p.range? (proseOf before).length = some r := by
  rw [h.ranges_eq, mem_rangesFrom]
  constructor
  · rintro ⟨pieces, p, rest, hrun, hr⟩
    obtain ⟨before, l, rfl, hbefore, hl⟩ := List.filterMap_eq_append_iff.mp hrun
    obtain ⟨blocks, s, after, rfl, hblocks, hs, -⟩ := List.filterMap_eq_cons_iff.mp hl
    -- what stands between the pieces before and the segment itself has no piece, and so no prose
    refine ⟨before ++ blocks, s, after, p, (List.append_assoc ..).symm, hs, ?_⟩
    rw [← charsOf_pieces, List.filterMap_append, List.filterMap_eq_nil_iff.mpr hblocks,
      List.append_nil, hbefore, ← hr, Nat.zero_add]
  · rintro ⟨before, s, after, p, rfl, hs, hr⟩
    refine ⟨before.filterMap ofSegment?, p, after.filterMap ofSegment?, ?_, ?_⟩
    · rw [List.filterMap_append, List.filterMap_cons_some hs]
    · rw [charsOf_pieces, Nat.zero_add, hr]

/-- The range of a piece covers the whole piece. -/
theorem covers_range? {before after : List Segment} {code : String} {p : StyledPiece}
    (hs : ofSegment? (.inlineCode code) = some p) (hr : p.range? (proseOf before).length = some r) :
    r.Covers (proseOf (before ++ .inlineCode code :: after)) before code := by
  have hshown := shown_ofSegment? hs
  obtain ⟨-, hstyle, hstart, hstop⟩ := StyledPiece.range?_eq_some_iff.mp hr
  cases hs
  rw [proseOf_append, proseOf_cons]
  refine ⟨?_, ?_, (Option.some.inj hstyle).symm⟩
  · rw [hstart, List.take_left]
  · rw [hstart, hstop, hshown, List.extract_eq_take_drop, List.drop_left, Nat.add_sub_cancel_left,
      List.take_left, List.length_append, Nat.add_sub_cancel_left, List.length_append,
      List.take_of_length_le (Nat.le_add_right _ _)]

theorem Joins.marks_prose (h : Joins join) (run : List Segment) :
    (join (run.filterMap ofSegment?)).Marks run where
  inside := fun _ hr => h.inside hr
  apart := h.apart _
  ofCode := by
    intro r hmem
    obtain ⟨before, s, after, p, rfl, hs, hr⟩ := h.mem_ranges_prose.mp hmem
    rw [h.plain_prose]
    cases s with
    | inlineCode code => exact ⟨before, code, after, rfl, covers_range? hs hr⟩
    | codeBlock b markup => cases hs
    | _ =>
      obtain ⟨-, hstyle, -⟩ := StyledPiece.range?_eq_some_iff.mp hr
      cases hs
      cases hstyle
  toRange := by
    rintro before code after rfl hcode -
    have hr :
        (⟨code, some inlineCodeStyle⟩ : StyledPiece).range? (proseOf before).length = some _ :=
      if_neg hcode
    refine ⟨_, h.mem_ranges_prose.mpr ⟨before, _, after, _, rfl, rfl, hr⟩, ?_⟩
    rw [h.plain_prose]
    exact covers_range? rfl hr

theorem mem_clip {ranges : List StyleRange} {length : Nat} : r ∈ clip length ranges ↔
    ∃ q ∈ ranges, q.start < length ∧ r = { q with stop := min q.stop length } := by
  simp only [clip, List.mem_map, List.mem_filter, decide_eq_true_eq, and_assoc, eq_comm (a := r)]

/-- Ranges that are cut with their text still are those of the run. -/
theorem Marks.clip (h : t.Marks run) {start : List Char} (hs : start <+: t.plain) :
    (⟨start, clip start.length t.ranges⟩ : StyledText).Marks run where
  inside := by
    intro r hr
    obtain ⟨q, hq, hlt, rfl⟩ := mem_clip.mp hr
    have hqs := (h.inside q hq).1
    exact ⟨Nat.le_min.mpr ⟨hqs, hlt.le⟩, Nat.min_le_right _ _⟩
  apart := by
    rw [StyledText.clip, List.pairwise_map]
    refine (h.apart.filter _).imp fun {a b} hab => ?_
    exact (Nat.min_le_left _ _).trans hab
  ofCode := by
    intro r hr
    obtain ⟨q, hq, hlt, rfl⟩ := mem_clip.mp hr
    obtain ⟨before, code, after, hrun, hcovers⟩ := h.ofCode q hq
    exact ⟨before, code, after, hrun, hcovers.cut hs hlt.le⟩
  toRange := by
    intro before code after hrun hcode hlt
    obtain ⟨q, hq, hcovers⟩ := h.toRange before code after hrun hcode (hlt.trans_le hs.length_le)
    have hstart : q.start < start.length := by
      have hqs := h.inside q hq
      rwa [hcovers.start_eq (hqs.1.trans hqs.2)]
    exact ⟨_, mem_clip.mpr ⟨q, hq, hstart, rfl⟩, hcovers.cut hs hstart.le⟩

theorem trimsEnd_trimEnd : TrimsEnd trimEnd where
  shorter _ h := if_pos h
  same _ h := if_neg (Nat.not_lt.mpr h)

namespace TrimsEnd

variable {trim : StyledText → StyledText}

theorem plain_eq (h : TrimsEnd trim) (t : StyledText) :
    (trim t).plain = t.plain.rdropWhile isBlank := by
  rcases Nat.lt_or_ge (trimEndChars t.plain).length t.plain.length with hlt | hle
  · rw [h.shorter t hlt]
    rfl
  · rw [h.same t hle]
    exact ((List.rdropWhile_prefix isBlank t.plain).eq_of_length_le hle).symm

theorem marks (h : TrimsEnd trim) (ht : t.Marks run) : (trim t).Marks run := by
  rcases Nat.lt_or_ge (trimEndChars t.plain).length t.plain.length with hlt | hle
  · rw [h.shorter t hlt]
    exact ht.clip (List.rdropWhile_prefix isBlank t.plain)
  · rw [h.same t hle]
    exact ht

end TrimsEnd

example : (ofProse [.text "run", .inlineCode " ls ", .lineBreak]).trimEnd =
    ⟨"run ls".toList, [⟨3, 6, inlineCodeStyle⟩]⟩ := by
  decide

end StyledText

namespace MessagePart

open Segment

def isCode : MessagePart → Bool
  | prose _ => false
  | code _ _ => true

def code? : MessagePart → Option (CodeBlock × String)
  | prose _ => none
  | code b markup => some (b, markup)

/-- How a run of prose is shown: not at all if it is blank, and else as its text without the blanks
at the end, its inline code marked. -/
inductive Shows (run : List Segment) : List MessagePart → Prop
  | blank (h : ∀ c ∈ proseOf run, isBlank c = true) : Shows run []
  | text (t : StyledText) (h : ∃ c ∈ proseOf run, isBlank c = false)
      (hplain : t.plain = (proseOf run).rdropWhile isBlank) (hmarks : t.Marks run) :
      Shows run [prose t]

variable {run : List Segment}

theorem flush_eq_append (run : List Segment) (parts : List MessagePart) :
    flush run parts = flush run [] ++ parts := by
  unfold flush
  dsimp only
  split <;> rfl

theorem shows_flush (run : List Segment) : Shows run.reverse (flush run []) := by
  unfold flush
  dsimp only
  rw [StyledText.ofProse, StyledText.joins_ofPieces.plain_prose]
  split
  · rename_i h
    exact .blank (List.all_eq_true.mp h)
  · rename_i h
    refine .text _ ?_ ?_
      (StyledText.trimsEnd_trimEnd.marks (StyledText.joins_ofPieces.marks_prose _))
    · simpa only [List.all_eq_true, not_forall, exists_prop, Bool.not_eq_true] using h
    · rw [StyledText.trimsEnd_trimEnd.plain_eq, StyledText.joins_ofPieces.plain_prose]

theorem Shows.isCode_eq_false {parts : List MessagePart} (h : Shows run parts) :
    ∀ part ∈ parts, part.isCode = false := by
  cases h with
  | blank => exact fun _ h => absurd h List.not_mem_nil
  | text t => exact List.forall_mem_singleton.mpr rfl

theorem codes_groupOnto (run xs : List Segment) :
    (groupOnto run xs).filterMap code? = xs.filterMap codeBlock? := by
  have hflush (run : List Segment) : (flush run []).filterMap code? = [] := by
    refine List.filterMap_eq_nil_iff.mpr fun part hpart => ?_
    have hcode := (shows_flush run).isCode_eq_false part hpart
    cases part with
    | prose t => rfl
    | code b markup => cases hcode
  fun_induction groupOnto run xs with
  | case1 run => exact hflush run
  | case2 run b markup rest ih =>
    rw [flush_eq_append, List.filterMap_append, hflush, List.nil_append]
    exact congrArg ((b, markup) :: ·) ih
  | case3 run s rest hs ih =>
    rw [ih]
    cases s with
    | codeBlock b markup => exact absurd rfl (hs b markup)
    | _ => rfl

/-- The code blocks of a message and their markup are shown as they are, in their order. -/
theorem codes_group (segments : List Segment) :
    (group segments).filterMap code? = segments.filterMap codeBlock? := codes_groupOnto [] segments

def block? : MessagePart → Option CodeBlock
  | prose _ => none
  | code b _ => some b

/-- The code blocks among the parts of a message are those of its segments. -/
theorem blocks_group (segments : List Segment) :
    (group segments).filterMap block? = Segment.blocks segments := by
  have hpart : block? = fun part => part.code?.map Prod.fst :=
    funext fun part => by cases part <;> rfl
  have hsegment : Segment.block? = fun s => s.codeBlock?.map Prod.fst :=
    funext fun s => by cases s <;> rfl
  rw [Segment.blocks, hpart, hsegment, ← List.map_filterMap, ← List.map_filterMap, codes_group]

/-- Between the same code blocks stand a run, which is held in reverse up to the first block, and
what shows it. -/
theorem shows_groupOnto (run xs : List Segment) (hrun : ∀ s ∈ run, s.isCodeBlock = false) :
    List.Forall₂ Shows ((run.reverse ++ xs).splitOnP isCodeBlock)
      ((groupOnto run xs).splitOnP isCode) := by
  have hreverse {run : List Segment} (hrun : ∀ s ∈ run, s.isCodeBlock = false) :
      ∀ s ∈ run.reverse, s.isCodeBlock = false := fun s hs => hrun s (List.mem_reverse.mp hs)
  fun_induction groupOnto run xs with
  | case1 run =>
    rw [List.append_nil, List.splitOnP_eq_singleton (hreverse hrun),
      List.splitOnP_eq_singleton (shows_flush run).isCode_eq_false]
    exact .cons (shows_flush run) .nil
  | case2 run b markup rest ih =>
    rw [List.splitOnP_append_cons_of_forall_mem (hreverse hrun) _ rfl, flush_eq_append,
      List.splitOnP_append_cons_of_forall_mem (shows_flush run).isCode_eq_false _ rfl]
    exact .cons (shows_flush run) (ih fun _ h => absurd h List.not_mem_nil)
  | case3 run s rest hs ih =>
    have hcode : s.isCodeBlock = false := by
      cases s with
      | codeBlock b markup => exact absurd rfl (hs b markup)
      | _ => rfl
    have h := ih (List.forall_mem_cons.mpr ⟨hcode, hrun⟩)
    rwa [List.reverse_cons, List.append_assoc] at h

/-- A message is shown as its code blocks, in their order, and between two of them, before the first
and behind the last one stands what shows the run of prose there. -/
theorem group_runs (segments : List Segment) :
    (group segments).filterMap code? = segments.filterMap codeBlock? ∧
    List.Forall₂ Shows (segments.splitOnP isCodeBlock) ((group segments).splitOnP isCode) :=
  ⟨codes_group segments, shows_groupOnto [] segments fun _ h => absurd h List.not_mem_nil⟩

end MessagePart

end FencedChat
