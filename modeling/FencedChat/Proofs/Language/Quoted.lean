import FencedChat.Language.Data
import FencedChat.Proofs.Pattern.Delimited
import Mathlib.Algebra.Group.Nat.Even

/-!
Comments and quoted literals, each opened by a fixed text. A comment goes on to its closing text or
to the end of its line. Behind the opening quote a literal is taken unit by unit, as long as there
is one, and the closing quote is taken if it comes next. What is a unit differs: a backslash goes
with the character after it, or two quotes count as one.
-/

namespace FencedChat

theorem CharSet.mem_chars (w : String) (c : Char) : (chars w).mem c = w.toList.any (c == ·) := by
  rw [chars, of, mem, List.any_map, Bool.bne_false]
  rfl

theorem CharSet.mem_butChars (w : String) (c : Char) :
    (butChars w).mem c = !w.toList.any (c == ·) := by
  rw [butChars, mem_except, of, mem, List.any_map, Bool.bne_false]
  rfl

namespace Reading

variable {f : Reading} {q : Char} {s w : List Char} {n : Nat}

/-- Up to `n` readings one after the other, and the closing quote if it comes next. -/
def closedBy (q : Char) (f : Reading) (n : Nat) (s : List Char) : List Char :=
  takeMany f n s ++ if [q] <+: s.drop (takeMany f n s).length then [q] else []

theorem closedBy_of_some (h : f s = some w) :
    closedBy q f (n + 1) s = w ++ closedBy q f n (s.drop w.length) := by
  rw [closedBy, closedBy, takeMany_of_some h, List.length_append, List.drop_drop, List.append_assoc]

theorem closedBy_of_none (h : f s = none) (n : Nat) :
    closedBy q f n s = if [q] <+: s then [q] else [] := by
  rw [closedBy, takeMany_of_none h]
  rfl

def unit (inside : Char → Bool) : Reading :=
  orElse (andThen (one (· == '\\')) (one fun _ => true)) (one inside)

def undoubled (q : Char) : Reading := orElse (andThen (one (· == q)) (one (· == q))) (one (· != q))

/-- A quoted text behind its opening quote, in which a backslash goes with the character after it:
all up to and including the first closing quote, or up to a character that the text cannot hold, a
backslash with nothing behind it or the end. -/
def throughUnescaped (q : Char) (stops : Char → Bool) : List Char → List Char
  | [] => []
  | c :: s =>
    if c = '\\' then
      match s with
      | d :: r => c :: d :: throughUnescaped q stops r
      | [] => []
    else if c = q then [c]
    else if stops c then []
    else c :: throughUnescaped q stops s

/-- A quoted text behind its opening quote, in which two quotes count as one: all up to and
including the first quote that no other follows, or up to the end. -/
def throughUndoubled (q : Char) : List Char → List Char
  | [] => []
  | c :: s =>
    if c = q then
      match s with
      | d :: r => if d = q then c :: d :: throughUndoubled q r else [c]
      | [] => [c]
    else c :: throughUndoubled q s

variable {stops inside : Char → Bool} {c : Char}

theorem unit_of_ne (hc : c ≠ '\\') (s : List Char) :
    unit inside (c :: s) = one inside (c :: s) := by
  simp [unit, orElse, andThen, one, hc]

theorem closedBy_cons {m : Nat} (h : f s = some w) (hn : m + 1 ≤ n) :
    ∃ k, m ≤ k ∧ closedBy q f n s = w ++ closedBy q f k (s.drop w.length) := by
  obtain ⟨k, rfl⟩ := Nat.exists_eq_add_of_le' hn
  exact ⟨k + m, by omega, closedBy_of_some h⟩

/-- Unit by unit, a text is taken through the first closing quote that is not part of a unit. -/
theorem closedBy_unit (hq : q ≠ '\\') (hi : ∀ c, inside c = !(c == q || c == '\\' || stops c))
    (hn : s.length ≤ n) : closedBy q (unit inside) n s = throughUnescaped q stops s := by
  fun_induction throughUnescaped q stops s generalizing n with
  | case1 =>
    rw [closedBy_of_none rfl]
    simp
  | case2 d r ih =>
    have hsome : unit inside ('\\' :: d :: r) = some ['\\', d] := rfl
    obtain ⟨k, hk, hclosed⟩ := closedBy_cons (q := q) hsome hn
    rw [hclosed]
    exact congrArg (['\\', d] ++ ·) (ih (Nat.le_of_succ_le hk))
  | case3 =>
    have hnone : unit inside ['\\'] = none := by simp [unit, orElse, andThen, one, hi]
    rw [closedBy_of_none hnone]
    simp [hq]
  | case4 s hc =>
    have hnone : unit inside (q :: s) = none := by simp [unit_of_ne hc, one, hi]
    rw [closedBy_of_none hnone]
    simp
  | case5 c s hc hcq hstop =>
    have hnone : unit inside (c :: s) = none := by simp [unit_of_ne hc, one, hi, hstop]
    rw [closedBy_of_none hnone]
    simp [Ne.symm hcq]
  | case6 c s hc hcq hstop ih =>
    have hsome : unit inside (c :: s) = some [c] := by
      simp [unit_of_ne hc, one, hi, hc, hcq, hstop]
    obtain ⟨k, hk, hclosed⟩ := closedBy_cons (q := q) hsome hn
    rw [hclosed]
    exact congrArg (c :: ·) (ih hk)

/-- A quote right behind the opening one closes the text. -/
theorem throughUnescaped_quote (hq : q ≠ '\\') (s : List Char) :
    throughUnescaped q stops (q :: s) = [q] := by
  rw [throughUnescaped.eq_def]
  simp [hq]

/-- Pair by pair, a text is taken through the first closing quote that no other follows. -/
theorem closedBy_undoubled (hn : s.length ≤ n) :
    closedBy q (undoubled q) n s = throughUndoubled q s := by
  fun_induction throughUndoubled q s generalizing n with
  | case1 =>
    rw [closedBy_of_none rfl]
    simp
  | case2 r ih =>
    have hsome : undoubled q (q :: q :: r) = some [q, q] := by
      simp [undoubled, orElse, andThen, one]
    obtain ⟨k, hk, hclosed⟩ := closedBy_cons (q := q) hsome hn
    rw [hclosed]
    exact congrArg ([q, q] ++ ·) (ih (Nat.le_of_succ_le hk))
  | case3 d r hd =>
    have hnone : undoubled q (q :: d :: r) = none := by simp [undoubled, orElse, andThen, one, hd]
    rw [closedBy_of_none hnone]
    simp
  | case4 =>
    have hnone : undoubled q [q] = none := by simp [undoubled, orElse, andThen, one]
    rw [closedBy_of_none hnone]
    simp
  | case5 c s hc ih =>
    have hsome : undoubled q (c :: s) = some [c] := by simp [undoubled, orElse, andThen, one, hc]
    obtain ⟨k, hk, hclosed⟩ := closedBy_cons (q := q) hsome hn
    rw [hclosed]
    exact congrArg (c :: ·) (ih hk)

/-- The length of the run of backslashes that a text ends with. -/
def finalBackslashes (v : List Char) : Nat := (v.reverse.takeWhile (· == '\\')).length

theorem finalBackslashes_le (v : List Char) : finalBackslashes v ≤ v.length := by
  have h := (List.takeWhile_prefix (l := v.reverse) (· == '\\')).length_le
  rwa [List.length_reverse] at h

/-- A character before a text belongs to its final run of backslashes if it is one and all the
others are. -/
theorem finalBackslashes_cons (c : Char) (v : List Char) : finalBackslashes (c :: v) =
    finalBackslashes v + if finalBackslashes v = v.length ∧ c = '\\' then 1 else 0 := by
  unfold finalBackslashes
  rw [List.reverse_cons, List.takeWhile_append, List.length_reverse]
  split
  · rename_i hall
    by_cases hc : c = '\\'
    · simp [hall, hc]
    · simp [hall, hc]
  · rename_i hall
    simp [hall]

theorem finalBackslashes_cons_of_ne {v : List Char} (hc : c ≠ '\\') :
    finalBackslashes (c :: v) = finalBackslashes v := by
  simp [finalBackslashes_cons, hc]

/-- A backslash and the character after it do not change whether the run is even. -/
theorem even_finalBackslashes_pair (d : Char) (v : List Char) :
    Even (finalBackslashes ('\\' :: d :: v)) ↔ Even (finalBackslashes v) := by
  have hle := finalBackslashes_le v
  by_cases hd : finalBackslashes v = v.length ∧ d = '\\'
  · have hone : finalBackslashes (d :: v) = v.length + 1 := by
      rw [finalBackslashes_cons, if_pos hd, hd.1]
    rw [finalBackslashes_cons, if_pos ⟨by simp [hone], rfl⟩, hone, ← hd.1, Nat.add_assoc,
      Nat.even_add]
    exact iff_true_right (by decide : Even 2)
  · have hsame : finalBackslashes (d :: v) = finalBackslashes v := by
      rw [finalBackslashes_cons, if_neg hd, Nat.add_zero]
    have hne : ¬ (finalBackslashes (d :: v) = (d :: v).length ∧ '\\' = '\\') := by
      rw [hsame, List.length_cons]
      omega
    rw [finalBackslashes_cons, if_neg hne, Nat.add_zero, hsame]

end Reading

/-- A rule for what a fixed text opens matches wherever that text stands. -/
theorem Pattern.Reads.matchesAt {r : Rule} {w v : List Char} {g : List Char → List Char}
    {s : Cursor}
    (hread : Reads r.pattern (.openedBy w g)) (h : s.rest = w ++ v) : r.matchesAt s = true := by
  obtain ⟨t, -, ht⟩ := hread.taken s _ (Reading.openedBy_eq_some.mpr ⟨v, h, rfl⟩)
  exact Rule.matchesAt_of_match? ht

namespace Language

open Pattern

variable {q : Char} {v : List Char} {w stops : String} {ends : Char → Bool}

theorem reads_lineComment (hw : w.toList = v) :
    Reads (all [text w, star notNewline]) (.openedBy v fun s => s.takeWhile (· != '\n')) := by
  rw [← hw]
  apply Reads.openedBy
  apply Reads.star
  intro c
  simp [notNewline, CharSet.mem_butChars, bne]

theorem reads_slashComment :
    Reads slashComment (.openedBy ['/', '/'] fun s => s.takeWhile (· != '\n')) :=
  reads_lineComment (by simp)

theorem reads_blockComment :
    Reads blockComment (.openedBy ['/', '*'] (Reading.through ['*', '/'])) := by
  have hopen : "/*".toList = ['/', '*'] := by simp
  have hclose : "*/".toList = ['*', '/'] := by simp
  have hread := Reads.openedBy "/*" (reads_through (w := "*/") (by decide))
  rwa [hopen, hclose] at hread

theorem reads_closedBy {u : Stride} {f : Reading} (hw : w.toList = [q]) (hu : u.Reads f) :
    Reads (seq (strides u) (optional (text w))) fun s =>
      some (Reading.closedBy q f s.length s) := by
  have hclosing : Reads (optional (text w)) (.maybe (.exactly [q])) := by
    rw [← hw]
    exact (Reads.text w).optional
  have hread : (Reading.repeated f).andThen (.maybe (.exactly [q])) =
      fun s => some (Reading.closedBy q f s.length s) := by
    funext s
    simp only [Reading.andThen, Reading.repeated, Reading.maybe, Reading.orElse, Reading.exactly,
      Reading.closedBy, Option.bind_some]
    split <;> rfl
  rw [← hread]
  exact (Reads.strides hu).seq_of_total hclosing (Reading.maybe_ne_none _)

/-- A literal in which a backslash goes with the character after it. -/
theorem reads_quoted (hw : w.toList = [q]) (hq : q ≠ '\\')
    (hs : ∀ c, (CharSet.butChars stops).mem c = !(c == q || c == '\\' || ends c)) :
    Reads (all [text w, strides (quotedStride stops), optional (text w)])
      (.openedBy [q] (Reading.throughUnescaped q ends)) := by
  have hunit : Stride.Reads (quotedStride stops)
      (.unit fun c => !(c == q || c == '\\' || ends c)) :=
    Reads.either (.pair (CharSet.mem_single '\\') fun _ => rfl) (.set hs)
  have hread := reads_closedBy hw hunit
  simp only [Reading.closedBy_unit hq (fun _ => rfl) (Nat.le_refl _)] at hread
  rw [← hw]
  exact .openedBy w hread

theorem reads_doubleQuoted :
    Reads doubleQuoted (.openedBy ['"'] (Reading.throughUnescaped '"' (· == '\n'))) := by
  apply reads_quoted
  · simp
  · decide
  · intro c
    simp [CharSet.mem_butChars, Bool.and_assoc]

theorem reads_singleQuoted :
    Reads singleQuoted (.openedBy ['\''] (Reading.throughUnescaped '\'' (· == '\n'))) := by
  apply reads_quoted
  · simp
  · decide
  · intro c
    simp [CharSet.mem_butChars, Bool.and_assoc]

/-- A literal in which two quotes count as one. -/
theorem reads_sqlQuoted : Reads sqlQuoted (.openedBy ['\''] (Reading.throughUndoubled '\'')) := by
  have hw : "'".toList = ['\''] := by simp
  have hpair : Stride.Reads [[.single '\'', .single '\''], [.butChars "'"]] (.undoubled '\'') := by
    apply Reads.either (.pair (CharSet.mem_single '\'') (CharSet.mem_single '\'')) (.set _)
    intro c
    simp [CharSet.mem_butChars, bne]
  have hread := reads_closedBy hw hpair
  simp only [Reading.closedBy_undoubled (Nat.le_refl _)] at hread
  rw [← hw]
  exact .openedBy _ hread

end Language

end FencedChat
