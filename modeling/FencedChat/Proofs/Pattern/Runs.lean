import FencedChat.Proofs.Pattern.Reach

/-!
Runs that are taken whole. A greedy repetition tries the end of the run first, so it stops there if
what follows succeeds there. It may give characters back otherwise; where what follows fails inside
the run, giving back is of no use, and the match is the one that takes the whole run.
-/

namespace FencedChat

namespace Cursor

variable {x : CharSet} {s t : Cursor}

theorem skip_of_step?_eq_none (h : s.step? x = none) : s.skip x = s := by
  obtain ⟨p, r, n, e⟩ := s
  cases r with
  | nil => rfl
  | cons c r =>
    by_cases hc : x.mem c
    · simp [step?, hc] at h
    · simp [skip, skipFrom, hc]

theorem skip_of_step?_eq_some (h : s.step? x = some t) : s.skip x = t.skip x := by
  obtain ⟨p, r, n, e⟩ := s
  cases r with
  | nil => simp [step?] at h
  | cons c r =>
    by_cases hc : x.mem c
    · simp only [step?, hc, if_true, Option.some.injEq] at h
      subst h
      simp [skip, skipFrom, hc]
    · simp [step?, hc] at h

/-- A set that is not passed does not hold the next character. -/
theorem mem_eq_false_of_step?_eq_none {c : Char} (h : s.step? x = none) (hc : s.Passes [c] t) :
    x.mem c = false := by
  obtain ⟨p, r, n, e⟩ := s
  obtain rfl : r = c :: t.rest := hc.rest
  simpa [step?] using h

/-- A set that shares no character with another has none where the other has one. -/
theorem step?_eq_none_of_disjoint {y : CharSet} (hxy : ∀ c, x.mem c = true → y.mem c = false)
    (h : s.step? x = some t) : s.step? y = none := by
  obtain ⟨p, r, n, e⟩ := s
  cases r with
  | nil => rfl
  | cons c r =>
    by_cases hc : x.mem c
    · simp [step?, hxy c hc]
    · simp [step?, hc] at h

end Cursor

theorem Stride.step?_single (x : CharSet) (s : Cursor) : Stride.step? [[x]] s = s.step? x := by
  cases h : s.step? x with
  | none => simp [Stride.step?, Cursor.steps?, h]
  | some t => simp [Stride.step?, Cursor.steps?, h]

namespace Pattern

/-- What follows a run fails at every place where the run goes on. -/
def FailsInside (x : CharSet) (k : Cursor → Option Cursor) : Prop :=
  ∀ s t, s.step? x = some t → k s = none

variable {x y : CharSet} {s : Cursor} {k : Cursor → Option Cursor}

theorem findSome?_cons_of_forall {nearer : List Cursor} (h : ∀ t ∈ nearer, k t = none) :
    (s :: nearer).findSome? k = k s := by
  rw [List.findSome?_cons]
  cases k s with
  | none => exact List.findSome?_eq_none_iff.mpr h
  | some r => rfl

/-- The places of a greedy run: its end, and before that the places where it goes on. -/
theorem reach_single {n : Nat} (hn : s.left ≤ n) (nearer : List Cursor) :
    ∃ inside, Stride.reach [[x]] n s nearer = s.skip x :: (inside ++ nearer) ∧
      ∀ t ∈ inside, ∃ u, t.step? x = some u := by
  induction n generalizing s nearer with
  | zero =>
    have hstep : s.step? x = none := by
      cases h : s.step? x with
      | none => rfl
      | some t =>
        obtain ⟨c, hc, -⟩ := Cursor.passes_step? h
        have hl := hc.left
        rw [List.length_singleton] at hl
        omega
    refine ⟨[], ?_, List.forall_mem_nil _⟩
    rw [Stride.reach, Cursor.skip_of_step?_eq_none hstep]
    rfl
  | succ n ih =>
    rw [Stride.reach, Stride.step?_single]
    cases h : s.step? x with
    | none =>
      refine ⟨[], ?_, List.forall_mem_nil _⟩
      rw [Cursor.skip_of_step?_eq_none h]
      rfl
    | some t =>
      obtain ⟨c, hc, -⟩ := Cursor.passes_step? h
      have hl := hc.left
      rw [List.length_singleton] at hl
      obtain ⟨inside, hreach, hgo⟩ := ih (s := t) (by omega) (s :: nearer)
      refine ⟨inside ++ [s], ?_, ?_⟩
      · rw [Cursor.skip_of_step?_eq_some h]
        simpa only [List.append_assoc, List.singleton_append] using hreach
      · exact List.forall_mem_append.mpr ⟨hgo, List.forall_mem_singleton.mpr ⟨t, h⟩⟩

/-- Only the end of the run is left, as every nearer place lies inside it. -/
theorem findSome?_reach (hk : FailsInside x k) {n : Nat} (hn : s.left ≤ n) :
    (Stride.reach [[x]] n s []).findSome? k = k (s.skip x) := by
  obtain ⟨inside, hreach, hgo⟩ := reach_single (x := x) hn []
  rw [hreach, List.append_nil]
  apply findSome?_cons_of_forall
  intro t ht
  obtain ⟨u, hu⟩ := hgo t ht
  exact hk t u hu

theorem run_star (hk : FailsInside x k) (s : Cursor) : (star x).run s k = (skip x).run s k :=
  findSome?_reach hk (Nat.le_refl _)

theorem run_plus (hk : FailsInside x k) (s : Cursor) : (plus x).run s k = (wholeRun x).run s k := by
  have hs : Stride.steps? [[x]] 1 s = s.step? x := by
    rw [Stride.steps?, Stride.step?_single]
    cases s.step? x <;> rfl
  have hx : s.steps? [x] = s.step? x := by
    rw [Cursor.steps?]
    cases s.step? x <;> rfl
  unfold plus wholeRun set run
  rw [hs, run, hx]
  cases s.step? x with
  | none => rfl
  | some t => exact findSome?_reach hk (Nat.le_refl _)

/-- A greedy run stops at its end if what follows succeeds there. -/
theorem run_star_of_isSome {r : Cursor} (h : k (s.skip x) = some r) :
    (star x).run s k = some r := by
  obtain ⟨inside, hreach, -⟩ := reach_single (x := x) (Nat.le_refl s.left) []
  change (Stride.reach [[x]] s.left s []).findSome? k = some r
  rw [hreach, List.findSome?_cons, h]

theorem match?_star (x : CharSet) (s : Cursor) : (star x).match? s = some (s.skip x) :=
  run_star_of_isSome rfl

/-- A run of at least one character ends behind all that follow. -/
theorem match?_plus (x : CharSet) (s : Cursor) :
    (plus x).match? s = (s.step? x).map fun _ => s.skip x := by
  have hs : Stride.steps? [[x]] 1 s = s.step? x := by
    rw [Stride.steps?, Stride.step?_single]
    cases s.step? x <;> rfl
  unfold match? plus run
  rw [hs]
  cases h : s.step? x with
  | none => rfl
  | some t =>
    have ht : (star x).run t some = some (t.skip x) := match?_star x t
    rw [Option.map_some, Cursor.skip_of_step?_eq_some h]
    exact ht

theorem match?_set (x : CharSet) (s : Cursor) : (set x).match? s = s.step? x := by
  simp only [match?, set, run, Cursor.steps?]
  cases s.step? x with
  | none => rfl
  | some t => rfl

theorem run_star_of_step?_eq_none (h : s.step? y = none) : (star y).run s k = k s := by
  have hreach (n : Nat) : Stride.reach [[y]] n s [] = [s] := by
    cases n with
    | zero => rfl
    | succ n => rw [Stride.reach, Stride.step?_single, h]
  unfold star run
  simp only [Stride.steps?, hreach, if_true]
  exact findSome?_cons_of_forall (List.forall_mem_nil _)

theorem run_set_of_step?_eq_none (h : s.step? y = none) : (set y).run s k = none := by
  have hy : s.steps? [y] = none := by rw [Cursor.steps?, h]
  simp only [set, run, hy]

end Pattern

end FencedChat
