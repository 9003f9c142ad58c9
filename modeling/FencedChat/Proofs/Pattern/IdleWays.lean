import FencedChat.Proofs.Pattern.Advance
import FencedChat.Proofs.Pattern.Ends
import FencedChat.Proofs.Pattern.Runs

/-!
Matches that take no character. Each way through a pattern that takes none depends on some looks at
the place only, so a pattern has an empty match at a place exactly if all looks of one of its ways
succeed there. Without looks the place does not matter.
-/

namespace FencedChat

namespace Cursor

variable {s t : Cursor}

/-- A place that leads to a later one and is led to by it is that place. -/
theorem Reaches.antisymm (h : s.Reaches t) (h' : t.Reaches s) : t = s := h.eq_of_left_le h'.left_le

theorem reaches_start_nil (h : (start []).Reaches t) : t = start [] := by
  obtain ⟨a, ha⟩ := h
  obtain ⟨rfl, hrest⟩ := List.append_eq_nil_iff.mp ha.rest.symm
  exact ext ha.prev hrest

end Cursor

namespace Stride

open Pattern

variable {u : Stride} {s t : Cursor}

/-- The looks on which an empty stride depends: the sequences before the empty one do not fit. -/
def idleWay (u : Stride) : Option (List Pattern) :=
  if [] ∈ u then some ((u.takeWhile (· ≠ [])).map fun xs => ahead false (sets xs)) else none

theorem steps?_add_one_of_self (h : u.step? s = some s) (n : Nat) : u.steps? n s = some s := by
  induction n with
  | zero => rfl
  | succ n ih =>
    rw [steps?, h]
    exact ih

theorem step?_eq_self_of_steps? {n : Nat} (h : u.steps? (n + 1) s = some s) :
    u.step? s = some s := by
  rw [steps?] at h
  split at h
  · rename_i v hv
    have hback := (reachesBy_steps? h).reaches
    rwa [(reachesBy_step? hv).reaches.antisymm hback] at hv
  · simp at h

end Stride

namespace Pattern

variable {p q : Pattern} {s t : Cursor}

/-- A look succeeds at a place: it matches there, and there is nothing to take. -/
def HoldsAt (look : Pattern) (s : Cursor) : Prop := look.match? s = some s

instance (look : Pattern) (s : Cursor) : Decidable (look.HoldsAt s) :=
  inferInstanceAs (Decidable (_ = _))

/-- The ways through a pattern that take no character, each as the looks that it depends on. A run
that is not given back takes none if the next character is not in its set. -/
def idleWays : Pattern → List (List Pattern)
  | empty => [[]]
  | sets xs => if xs = [] then [[]] else []
  | seq p q => p.idleWays.flatMap fun way => q.idleWays.map (way ++ ·)
  | alt p q => p.idleWays ++ q.idleWays
  | many u least _ _ => if least = 0 then [[]] else u.idleWay.toList
  | skip x => [[ahead false (set x)]]
  | group _ p => p.idleWays
  | look => [[look]]

/-- All looks of some way through the pattern that takes no character succeed at the place. -/
def IdleAt (p : Pattern) (s : Cursor) : Prop := ∃ way ∈ p.idleWays, ∀ look ∈ way, look.HoldsAt s

instance (p : Pattern) (s : Cursor) : Decidable (p.IdleAt s) :=
  inferInstanceAs (Decidable (∃ way ∈ p.idleWays, _))

theorem idleAt_seq : (seq p q).IdleAt s ↔ p.IdleAt s ∧ q.IdleAt s := by
  simp only [IdleAt, idleWays, List.mem_flatMap, List.mem_map]
  constructor
  · rintro ⟨_, ⟨way, hp, way', hq, rfl⟩, hall⟩
    obtain ⟨hway, hway'⟩ := List.forall_mem_append.mp hall
    exact ⟨⟨way, hp, hway⟩, way', hq, hway'⟩
  · rintro ⟨⟨way, hp, hway⟩, way', hq, hway'⟩
    exact ⟨_, ⟨way, hp, way', hq, rfl⟩, List.forall_mem_append.mpr ⟨hway, hway'⟩⟩

theorem idleAt_alt : (alt p q).IdleAt s ↔ p.IdleAt s ∨ q.IdleAt s := by
  simp only [IdleAt, idleWays, List.mem_append, or_and_right, exists_or]

theorem holdsAt_ahead_sets {xs : List CharSet} :
    (ahead false (sets xs)).HoldsAt s ↔ s.steps? xs = none := by
  cases h : s.steps? xs <;> simp [HoldsAt, match?, run, h]

/-- A stride stays at a place if the first of its sequences that fits is the empty one. -/
theorem step?_eq_self_iff {u : Stride} :
    u.step? s = some s ↔ ∃ way, u.idleWay = some way ∧ ∀ look ∈ way, HoldsAt look s := by
  induction u with
  | nil => simp [Stride.step?, Stride.idleWay]
  | cons xs u ih =>
    by_cases hxs : xs = []
    · have hstep : Stride.step? ([] :: u) s = some s := rfl
      simp [hxs, hstep, Stride.idleWay]
    · have hway :
          Stride.idleWay (xs :: u) = (Stride.idleWay u).map (ahead false (sets xs) :: ·) := by
        simp only [Stride.idleWay, List.mem_cons, Ne.symm hxs, false_or]
        split
        · rw [List.takeWhile_cons_of_pos (by simpa using hxs)]
          rfl
        · rfl
      have hstep : Stride.step? (xs :: u) s = (s.steps? xs).or (Stride.step? u s) := by
        rw [Stride.step?, List.findSome?_cons]
        cases s.steps? xs <;> rfl
      have hmoves : s.steps? xs ≠ some s := fun h =>
        absurd (Cursor.precedes_steps? hxs h).left_lt (Nat.lt_irrefl _)
      simp only [hway, hstep, Option.map_eq_some_iff, Option.or_eq_some_iff, hmoves,
        false_or, ih, exists_exists_and_eq_and, List.forall_mem_cons, holdsAt_ahead_sets]
      constructor
      · rintro ⟨h, way, hm, hall⟩
        exact ⟨way, hm, h, hall⟩
      · rintro ⟨way, hm, h, hall⟩
        exact ⟨h, way, hm, hall⟩

theorem mem_ends_many {u : Stride} {least : Nat} (most : Option Nat) (greedy : Bool)
    (h : u.steps? least s = some t) :
    ∃ n, ∀ v, v ∈ (many u least most greedy).ends s ↔ v ∈ u.reach n t [] := by
  rw [ends, h]
  cases greedy with
  | true => exact ⟨_, fun v => Iff.rfl⟩
  | false => exact ⟨_, fun v => List.mem_reverse⟩

theorem mem_ends_many_self {u : Stride} {least : Nat} {most : Option Nat} {greedy : Bool} :
    s ∈ (many u least most greedy).ends s ↔ u.steps? least s = some s := by
  constructor
  · intro h
    cases ht : u.steps? least s with
    | none => simp [ends, ht] at h
    | some t =>
      obtain ⟨n, hn⟩ := mem_ends_many most greedy ht
      rcases Stride.reachesBy_of_mem_reach ((hn s).mp h) with hnil | hback
      · simp at hnil
      · rw [(Stride.reachesBy_steps? ht).reaches.antisymm hback.reaches]
  · intro h
    obtain ⟨n, hn⟩ := mem_ends_many most greedy h
    exact (hn s).mpr (Stride.mem_reach_self u n s)

theorem skip_eq_self_iff {x : CharSet} : s.skip x = s ↔ (ahead false (set x)).HoldsAt s := by
  have hsteps : s.steps? [x] = s.step? x := by
    rw [Cursor.steps?]
    cases s.step? x <;> rfl
  rw [set, holdsAt_ahead_sets, hsteps]
  constructor
  · intro h
    cases hstep : s.step? x with
    | none => rfl
    | some t =>
      have hl := (Cursor.precedes_step? hstep).left_lt
      have hle := (Cursor.reachesBy_skip x t).reaches.left_le
      rw [← Cursor.skip_of_step?_eq_some hstep, h] at hle
      omega
  · exact Cursor.skip_of_step?_eq_none

/-- What only tests the place has an empty match where it holds. -/
theorem mem_ends_look (h : ∀ t ∈ p.ends s, t = s) : s ∈ p.ends s ↔ p.HoldsAt s := by
  rw [HoldsAt, match?_eq_head?]
  cases hp : p.ends s with
  | nil => simp
  | cons t ts => simp [h t (by simp [hp])]

/-- A pattern has an empty match at a place exactly if it is idle there. -/
theorem mem_ends_self_iff : s ∈ p.ends s ↔ p.IdleAt s := by
  induction p generalizing s with
  | empty => simp [ends, IdleAt, idleWays]
  | sets xs =>
    rw [ends, Option.mem_toList]
    cases xs with
    | nil => simp [Cursor.steps?, IdleAt, idleWays]
    | cons x xs =>
      have hmoves : s.steps? (x :: xs) ≠ some s := fun h =>
        absurd (Cursor.precedes_steps? (List.cons_ne_nil x xs) h).left_lt (Nat.lt_irrefl _)
      simp [hmoves, IdleAt, idleWays]
  | seq p q ihp ihq =>
    rw [idleAt_seq, ← ihp, ← ihq, ends, List.mem_flatMap]
    constructor
    · rintro ⟨t, ht, hs⟩
      -- what is left behind by the first part is not come back to
      obtain rfl := (reaches_of_mem_ends ht).antisymm (reaches_of_mem_ends hs)
      exact ⟨ht, hs⟩
    · rintro ⟨hp, hq⟩
      exact ⟨s, hp, hq⟩
  | alt p q ihp ihq => rw [idleAt_alt, ← ihp, ← ihq, ends, List.mem_append]
  | many u least most greedy =>
    rw [mem_ends_many_self, IdleAt, idleWays]
    cases least with
    | zero => simp [Stride.steps?]
    | succ n =>
      simp only [Nat.add_one_ne_zero, if_false, Option.mem_toList]
      rw [← step?_eq_self_iff]
      exact ⟨Stride.step?_eq_self_of_steps?, fun h => Stride.steps?_add_one_of_self h (n + 1)⟩
  | skip x =>
    rw [ends, List.mem_singleton, eq_comm, skip_eq_self_iff]
    simp [IdleAt, idleWays]
  | group captured p ih => exact ih
  | _ =>
    rw [mem_ends_look (by simp only [ends]; split <;> simp)]
    simp [IdleAt, idleWays]

theorem matchesEmpty_iff : p.matchesEmpty = true ↔ p.IdleAt (.start []) := by
  rw [← mem_ends_self_iff, matchesEmpty, match?_eq_head?]
  cases h : p.ends (.start []) with
  | nil => simp
  | cons t ts =>
    have hm : t ∈ p.ends (.start []) := h ▸ List.mem_cons_self
    obtain rfl := Cursor.reaches_start_nil (reaches_of_mem_ends hm)
    simp

/-- Whether the pattern depends on nothing but the characters that it takes. -/
def lookFree : Pattern → Bool
  | empty => true
  | sets _ => true
  | seq p q => p.lookFree && q.lookFree
  | alt p q => p.lookFree && q.lookFree
  | many u _ _ _ => u.advances
  | group _ p => p.lookFree
  | _ => false

theorem eq_nil_of_mem_idleWays (hp : p.lookFree = true) : ∀ way ∈ p.idleWays, way = [] := by
  induction p with
  | empty => simp [idleWays]
  | sets xs =>
    rw [idleWays]
    split <;> simp
  | seq p q ihp ihq =>
    obtain ⟨hp, hq⟩ := Bool.and_eq_true_iff.mp hp
    simp only [idleWays, List.mem_flatMap, List.mem_map]
    rintro _ ⟨way, hway, way', hway', rfl⟩
    rw [ihp hp way hway, ihq hq way' hway', List.append_nil]
  | alt p q ihp ihq =>
    obtain ⟨hp, hq⟩ := Bool.and_eq_true_iff.mp hp
    exact List.forall_mem_append.mpr ⟨ihp hp, ihq hq⟩
  | many u least most greedy =>
    have hnil : [] ∉ u := by
      intro hm
      exact absurd (List.all_eq_true.mp hp [] hm) (by simp)
    rw [idleWays, Stride.idleWay, if_neg hnil]
    split <;> simp
  | group captured p ih => exact ih hp
  | _ => simp [lookFree] at hp

/-- Without looks a pattern has an empty match everywhere or nowhere. -/
theorem IdleAt.of_lookFree (hp : p.lookFree = true) (h : p.IdleAt s) (t : Cursor) : p.IdleAt t := by
  obtain ⟨way, hm, -⟩ := h
  refine ⟨way, hm, ?_⟩
  rw [eq_nil_of_mem_idleWays hp way hm]
  exact List.forall_mem_nil _

end Pattern

end FencedChat
