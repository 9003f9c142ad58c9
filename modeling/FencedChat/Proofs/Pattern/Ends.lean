import FencedChat.Proofs.Pattern.Reach

/-!
The ends of a pattern. Backtracking tries the ends that a pattern offers one after the other, so
running a pattern finds the first of its ends from which the rest succeeds, and the match is the
first end of all.
-/

namespace FencedChat

namespace Stride

variable {u : Stride} {s : Cursor}

theorem reach_append (u : Stride) (n : Nat) (s : Cursor) (nearer : List Cursor) :
    u.reach n s nearer = u.reach n s [] ++ nearer := by
  induction n generalizing s nearer with
  | zero => rfl
  | succ n ih =>
    unfold reach
    split
    · rename_i t _
      rw [ih t (s :: nearer), ih t [s], List.append_assoc, List.singleton_append]
    · rfl

theorem reach_succ_of_step? {n : Nat} {t : Cursor} (h : u.step? s = some t) :
    u.reach (n + 1) s [] = u.reach n t [] ++ [s] := by
  rw [reach, h]
  exact reach_append u n t [s]

/-- A lazy repetition tries the places of a greedy one in the opposite order. -/
theorem findNearest_eq_findSome? (u : Stride) (k : Cursor → Option Cursor) (n : Nat) (s : Cursor) :
    u.findNearest k n s = (u.reach n s []).reverse.findSome? k := by
  induction n generalizing s with
  | zero => simp [findNearest, reach]
  | succ n ih =>
    rw [findNearest]
    cases hstep : u.step? s with
    | none =>
      rw [reach, hstep]
      cases hk : k s <;> simp [hk]
    | some t =>
      rw [reach_succ_of_step? hstep, List.reverse_append, List.reverse_singleton,
        List.singleton_append, List.findSome?_cons, ← ih t]
      cases k s <;> rfl

theorem mem_reach_self (u : Stride) (n : Nat) (s : Cursor) : s ∈ u.reach n s [] := by
  cases n with
  | zero => exact List.mem_singleton_self s
  | succ n =>
    unfold reach
    split
    · rw [reach_append]
      exact List.mem_append_right _ (List.mem_singleton_self s)
    · exact List.mem_singleton_self s

end Stride

namespace Pattern

/-- The places where a match may end, in the order in which they are tried. -/
def ends : Pattern → Cursor → List Cursor
  | empty, s => [s]
  | sets xs, s => (s.steps? xs).toList
  | seq p q, s => (p.ends s).flatMap q.ends
  | alt p q, s => p.ends s ++ q.ends s
  | many u least most greedy, s =>
    match u.steps? least s with
    | none => []
    | some t =>
      let more := match most with
        | some m => min (m - least) t.left
        | none => t.left
      if greedy then u.reach more t [] else (u.reach more t []).reverse
  | skip x, s => [s.skip x]
  | ahead positive p, s => if (p.ends s).isEmpty == positive then [] else [s]
  | behind positive x, s => if s.prevIn x == positive then [s] else []
  | lineStart, s => if s.atLineStart then [s] else []
  | lineEnd, s => if s.atLineEnd then [s] else []
  | textEnd, s => if s.atEnd then [s] else []
  | wordEdge, s => if s.atWordEdge then [s] else []
  | group _ p, s => p.ends s

variable {p q : Pattern} {s t : Cursor}

theorem findSome?_flatMap (xs : List Cursor) (f : Cursor → List Cursor)
    (k : Cursor → Option Cursor) :
    (xs.flatMap f).findSome? k = xs.findSome? fun t => (f t).findSome? k := by
  induction xs with
  | nil => rfl
  | cons x xs ih =>
    rw [List.flatMap_cons, List.findSome?_append, ih, List.findSome?_cons]
    cases (f x).findSome? k <;> rfl

theorem findSome?_some (xs : List Cursor) : xs.findSome? some = xs.head? := by
  cases xs <;> rfl

/-- Running a pattern finds the first of its ends from which the rest succeeds. -/
theorem run_eq_findSome? (p : Pattern) (s : Cursor) (k : Cursor → Option Cursor) :
    p.run s k = (p.ends s).findSome? k := by
  induction p generalizing s k with
  | sets xs =>
    unfold run ends
    cases s.steps? xs <;> simp
  | seq p q ihp ihq =>
    rw [run, ends, findSome?_flatMap, ihp]
    congr 1
    exact funext fun t => ihq t k
  | alt p q ihp ihq =>
    rw [run, ends, List.findSome?_append, ihp, ihq]
    cases (p.ends s).findSome? k <;> rfl
  | many u least most greedy =>
    unfold run ends
    cases u.steps? least s with
    | none => rfl
    | some t =>
      cases greedy with
      | true => rfl
      | false => exact Stride.findNearest_eq_findSome? u k _ t
  | ahead positive p ih =>
    have hsome : (p.run s some).isSome = !(p.ends s).isEmpty := by
      rw [ih, findSome?_some]
      cases p.ends s <;> rfl
    rw [run, ends, hsome]
    cases (p.ends s).isEmpty <;> cases positive <;> simp
  | group captured p ih => exact ih s k
  | empty => simp [run, ends]
  | skip x => simp [run, ends]
  | _ =>
    -- a test keeps the place or ends the attempt
    simp only [run, ends]
    split <;> simp

/-- The match ends at the first of the ends. -/
theorem match?_eq_head? (p : Pattern) (s : Cursor) : p.match? s = (p.ends s).head? := by
  rw [match?, run_eq_findSome?, findSome?_some]

theorem reaches_of_mem_ends (h : t ∈ p.ends s) : s.Reaches t := by
  have hrun : (p.run s fun v => if v = t then some v else none).isSome := by
    rw [run_eq_findSome?, List.findSome?_isSome_iff]
    exact ⟨t, h, by simp⟩
  obtain ⟨r, hr⟩ := Option.isSome_iff_exists.mp hrun
  obtain ⟨v, hv, hk⟩ := reaches_run hr
  obtain ⟨rfl, -⟩ := Option.ite_none_right_eq_some.mp hk
  exact hv

/-- Alternatives lead on through the first of them that does. -/
theorem run_oneOf {ps : List Pattern} (hne : ps ≠ []) (s : Cursor) (k : Cursor → Option Cursor) :
    (oneOf ps).run s k = ps.findSome? fun p => p.run s k := by
  induction ps with
  | nil => exact absurd rfl hne
  | cons p ps ih =>
    cases ps with
    | nil => simp [oneOf]
    | cons q qs =>
      rw [List.findSome?_cons, ← ih (List.cons_ne_nil q qs)]
      cases h : p.run s k <;> simp [oneOf, run, h]

end Pattern

end FencedChat
