import FencedChat.Screen.StyledText
import Mathlib.Data.List.Induction

/-!
The styled ranges of pieces that are put together, in any way that joins them. Each piece that holds
text and has a style has one range, in the order of the pieces, and the range lies where the
characters of the piece lie in the text.
-/

namespace FencedChat

variable {p : StyledPiece} {r : StyleRange} {pieces before after : List StyledPiece} {start : Nat}

namespace StyledPiece

def isMarked (p : StyledPiece) : Bool := p.text != "" && p.style.isSome

theorem range?_eq_some_iff : p.range? start = some r ↔
    p.text ≠ "" ∧ p.style = some r.style ∧ r.start = start ∧ r.stop = start + p.shown.length := by
  obtain ⟨first, stop, style⟩ := r
  unfold range?
  split
  · rename_i h
    simp [h]
  · rename_i h
    simp only [Option.map_eq_some_iff, StyleRange.mk.injEq, h, ne_eq, not_false_eq_true, true_and]
    constructor
    · rintro ⟨s, hs, rfl, rfl, rfl⟩
      exact ⟨hs, rfl, rfl⟩
    · rintro ⟨hs, rfl, rfl⟩
      exact ⟨style, hs, rfl, rfl, rfl⟩

theorem isSome_range? (p : StyledPiece) (start : Nat) : (p.range? start).isSome = p.isMarked := by
  unfold range? isMarked
  split
  · rename_i h
    simp [h]
  · rename_i h
    simp [h]

end StyledPiece

namespace StyledText

def charsOf (pieces : List StyledPiece) : List Char := pieces.flatMap StyledPiece.shown

@[simp] theorem charsOf_cons (p : StyledPiece) (pieces : List StyledPiece) :
    charsOf (p :: pieces) = p.shown ++ charsOf pieces := rfl

@[simp] theorem charsOf_append (before after : List StyledPiece) :
    charsOf (before ++ after) = charsOf before ++ charsOf after := List.flatMap_append

def rangesFrom (start : Nat) : List StyledPiece → List StyleRange
  | [] => []
  | p :: rest => (p.range? start).toList ++ rangesFrom (start + p.shown.length) rest

theorem rangesFrom_append (start : Nat) (before after : List StyledPiece) :
    rangesFrom start (before ++ after) =
      rangesFrom start before ++ rangesFrom (start + (charsOf before).length) after := by
  induction before generalizing start with
  | nil => rfl
  | cons p rest ih =>
    simp only [List.cons_append, rangesFrom, ih, charsOf_cons, List.length_append,
      List.append_assoc, Nat.add_assoc]

theorem length_rangesFrom (start : Nat) (pieces : List StyledPiece) :
    (rangesFrom start pieces).length = (pieces.filter StyledPiece.isMarked).length := by
  induction pieces generalizing start with
  | nil => rfl
  | cons p rest ih =>
    rw [rangesFrom, List.length_append, ih, List.filter_cons, ← p.isSome_range? start]
    cases p.range? start with
    | none => simp
    | some r => simp [Nat.add_comm]

/-- Every range is that of a piece. -/
theorem mem_rangesFrom : r ∈ rangesFrom start pieces ↔
    ∃ before p after, pieces = before ++ p :: after ∧
      p.range? (start + (charsOf before).length) = some r := by
  constructor
  · intro h
    induction pieces generalizing start with
    | nil => simp [rangesFrom] at h
    | cons p rest ih =>
      rw [rangesFrom, List.mem_append, Option.mem_toList] at h
      rcases h with h | h
      · exact ⟨[], p, rest, rfl, h⟩
      · obtain ⟨before, q, after, rfl, hq⟩ := ih h
        refine ⟨p :: before, q, after, rfl, ?_⟩
        rwa [charsOf_cons, List.length_append, ← Nat.add_assoc]
  · rintro ⟨before, p, after, rfl, hp⟩
    rw [rangesFrom_append, rangesFrom, hp]
    simp

theorem inside_rangesFrom (h : r ∈ rangesFrom start pieces) :
    start ≤ r.start ∧ r.start ≤ r.stop ∧ r.stop ≤ start + (charsOf pieces).length := by
  obtain ⟨before, p, after, rfl, hp⟩ := mem_rangesFrom.mp h
  obtain ⟨-, -, hstart, hstop⟩ := StyledPiece.range?_eq_some_iff.mp hp
  simp only [charsOf_append, charsOf_cons, List.length_append]
  omega

theorem pairwise_rangesFrom (start : Nat) (pieces : List StyledPiece) :
    (rangesFrom start pieces).Pairwise fun a b => a.stop ≤ b.start := by
  induction pieces generalizing start with
  | nil => exact .nil
  | cons p rest ih =>
    rw [rangesFrom, List.pairwise_append]
    refine ⟨?_, ih _, fun a ha b hb => ?_⟩
    · cases p.range? start with
      | none => exact .nil
      | some r => exact List.pairwise_singleton _ r
    · obtain ⟨-, -, -, hstop⟩ := StyledPiece.range?_eq_some_iff.mp (Option.mem_toList.mp ha)
      rw [hstop]
      exact (inside_rangesFrom hb).1

theorem rangesOnto_concat (ranges : List StyleRange) (start : Nat) (pieces : List StyledPiece)
    (p : StyledPiece) : rangesOnto ranges start (pieces ++ [p]) =
      rangesOnto ranges start pieces ++ (p.range? (start + (charsOf pieces).length)).toList := by
  induction pieces generalizing ranges start with
  | nil =>
    rw [List.nil_append, rangesOnto, rangesOnto, rangesOnto, show charsOf [] = [] from rfl,
      List.length_nil, Nat.add_zero]
    cases p.range? start with
    | none => simp
    | some r => simp
  | cons q rest ih =>
    rw [List.cons_append, rangesOnto, rangesOnto, ih, charsOf_cons, List.length_append,
      Nat.add_assoc]

theorem joins_ofPieces : Joins ofPieces where
  empty := rfl
  concat pieces p := by
    rw [ofPieces, rangesOnto_concat, Nat.zero_add, List.flatMap_append, List.flatMap_singleton]
    rfl

namespace Joins

variable {join : List StyledPiece → StyledText}

theorem plain_eq (h : Joins join) (pieces : List StyledPiece) :
    (join pieces).plain = charsOf pieces := by
  induction pieces using List.reverseRecOn with
  | nil => rw [h.empty]; rfl
  | append_singleton pieces p ih =>
    rw [h.concat, ih, charsOf_append]
    simp [charsOf]

theorem ranges_eq (h : Joins join) (pieces : List StyledPiece) :
    (join pieces).ranges = rangesFrom 0 pieces := by
  induction pieces using List.reverseRecOn with
  | nil => rw [h.empty]; rfl
  | append_singleton pieces p ih =>
    rw [h.concat, ih, h.plain_eq, rangesFrom_append, Nat.zero_add]
    simp [rangesFrom]

/-- The range of a piece stands behind as many ranges as there are pieces with a range before it. -/
theorem getElem?_ranges (h : Joins join) (hp : p.isMarked = true) :
    (join (before ++ p :: after)).ranges[(before.filter StyledPiece.isMarked).length]? =
      p.range? (charsOf before).length := by
  rw [h.ranges_eq, rangesFrom_append, ← length_rangesFrom 0,
    List.getElem?_append_right (Nat.le_refl _), Nat.sub_self, Nat.zero_add, rangesFrom]
  rw [← p.isSome_range? (charsOf before).length] at hp
  obtain ⟨r, hr⟩ := Option.isSome_iff_exists.mp hp
  rw [hr]
  rfl

/-- The ranges of pieces lie within their text. -/
theorem inside (h : Joins join) (hr : r ∈ (join pieces).ranges) :
    r.start ≤ r.stop ∧ r.stop ≤ (join pieces).plain.length := by
  rw [h.ranges_eq] at hr
  obtain ⟨-, hle, hstop⟩ := inside_rangesFrom hr
  rw [Nat.zero_add] at hstop
  rw [h.plain_eq]
  exact ⟨hle, hstop⟩

/-- The ranges of pieces do not overlap. -/
theorem apart (h : Joins join) (pieces : List StyledPiece) :
    (join pieces).ranges.Pairwise fun a b => a.stop ≤ b.start := by
  rw [h.ranges_eq]
  exact pairwise_rangesFrom 0 pieces

end Joins

end StyledText

end FencedChat
