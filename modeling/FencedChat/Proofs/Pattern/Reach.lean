import FencedChat.Pattern.Basic
import Mathlib.Data.List.TakeWhile

/-!
Places that a match can reach. Patterns look back at most at the character before a place, and they
never move back: what `Pattern.run` finds lies behind a stretch of text that starts where the match
was tried, and every character of that stretch is in a set of the pattern.
-/

namespace FencedChat

namespace Cursor

/-- `t` lies behind the text `passed`, which starts at `s`. -/
structure Passes (s : Cursor) (passed : List Char) (t : Cursor) : Prop where
  rest : s.rest = passed ++ t.rest
  prev : t.prev = passed.getLast?.or s.prev

/-- `t` is `s` or a later place of the same text. -/
def Reaches (s t : Cursor) : Prop := ∃ passed, s.Passes passed t

variable {s t u : Cursor} {a b : List Char}

theorem Passes.nil (s : Cursor) : s.Passes [] s := ⟨rfl, rfl⟩

theorem Passes.append (h : s.Passes a t) (h' : t.Passes b u) : s.Passes (a ++ b) u where
  rest := by rw [h.rest, h'.rest, List.append_assoc]
  prev := by rw [h'.prev, h.prev, List.getLast?_append, Option.or_assoc]

theorem Passes.left (h : s.Passes a t) : s.left = a.length + t.left := by
  rw [s.left_eq, t.left_eq, h.rest, List.length_append]

/-- The text between two places is what was passed on the way. -/
theorem Passes.textTo (h : s.Passes a t) : s.textTo t = a := by
  have hl : s.left - t.left = a.length := by
    have := h.left
    omega
  rw [Cursor.textTo, hl, h.rest, List.take_left]

theorem Reaches.refl (s : Cursor) : s.Reaches s := ⟨[], .nil s⟩

theorem Reaches.trans (h : s.Reaches t) (h' : t.Reaches u) : s.Reaches u := by
  obtain ⟨a, ha⟩ := h
  obtain ⟨b, hb⟩ := h'
  exact ⟨a ++ b, ha.append hb⟩

/-- The text from one place on is the text up to a later place and the text from there on. -/
theorem Reaches.textTo_append (h : s.Reaches t) : s.textTo t ++ t.rest = s.rest := by
  obtain ⟨a, ha⟩ := h
  rw [ha.textTo, ha.rest]

theorem Reaches.left_le (h : s.Reaches t) : t.left ≤ s.left := by
  obtain ⟨a, ha⟩ := h
  have := ha.left
  omega

/-- No text lies between places with as much text to come. -/
theorem Reaches.eq_of_left_le (h : s.Reaches t) (hl : s.left ≤ t.left) : t = s := by
  obtain ⟨a, ha⟩ := h
  have hlen := ha.left
  obtain rfl : a = [] := List.eq_nil_of_length_eq_zero (by omega)
  exact ext ha.prev ha.rest.symm

theorem textTo_eq_nil (h : s.left ≤ t.left) : s.textTo t = [] := by
  rw [textTo, Nat.sub_eq_zero_of_le h, List.take_zero]

theorem passes_next? (h : s.next? = some t) : ∃ c, s.Passes [c] t := by
  obtain ⟨p, r, n, hn⟩ := s
  cases r with
  | nil => simp [next?] at h
  | cons c r =>
    obtain rfl := Option.some.inj h
    exact ⟨c, rfl, rfl⟩

theorem passes_step? {x : CharSet} (h : s.step? x = some t) :
    ∃ c, s.Passes [c] t ∧ x.mem c = true := by
  obtain ⟨p, r, n, hn⟩ := s
  cases r with
  | nil => simp [step?] at h
  | cons c r =>
    simp only [step?, Option.ite_none_right_eq_some, Option.some.injEq] at h
    obtain ⟨hc, rfl⟩ := h
    exact ⟨c, ⟨rfl, rfl⟩, hc⟩

theorem reaches_next? (h : s.next? = some t) : s.Reaches t :=
  let ⟨c, hc⟩ := passes_next? h
  ⟨[c], hc⟩

/-- `t` lies behind a text of which every character satisfies `p`. -/
def ReachesBy (p : Char → Bool) (s t : Cursor) : Prop :=
  ∃ passed, s.Passes passed t ∧ ∀ c ∈ passed, p c = true

variable {p q : Char → Bool}

theorem ReachesBy.refl (s : Cursor) : s.ReachesBy p s := ⟨[], .nil s, List.forall_mem_nil _⟩

theorem ReachesBy.trans (h : s.ReachesBy p t) (h' : t.ReachesBy p u) : s.ReachesBy p u := by
  obtain ⟨a, ha, hp⟩ := h
  obtain ⟨b, hb, hq⟩ := h'
  exact ⟨a ++ b, ha.append hb, List.forall_mem_append.mpr ⟨hp, hq⟩⟩

theorem ReachesBy.mono (h : s.ReachesBy p t) (hpq : ∀ c, p c = true → q c = true) :
    s.ReachesBy q t := by
  obtain ⟨a, ha, hp⟩ := h
  exact ⟨a, ha, fun c hc => hpq c (hp c hc)⟩

theorem ReachesBy.reaches (h : s.ReachesBy p t) : s.Reaches t := by
  obtain ⟨a, ha, -⟩ := h
  exact ⟨a, ha⟩

theorem reachesBy_steps? {xs : List CharSet} (h : s.steps? xs = some t) :
    s.ReachesBy (fun c => xs.any (·.mem c)) t := by
  induction xs generalizing s with
  | nil =>
    obtain rfl := Option.some.inj h
    exact .refl s
  | cons x xs ih =>
    unfold steps? at h
    split at h
    · rename_i v hv
      obtain ⟨c, hc, hx⟩ := passes_step? hv
      have hfirst : s.ReachesBy (fun c => (x :: xs).any (·.mem c)) v := by
        refine ⟨[c], hc, List.forall_mem_singleton.mpr ?_⟩
        simp only [List.any_cons, hx, Bool.true_or]
      refine hfirst.trans ((ih h).mono fun c hc => ?_)
      simp only [List.any_cons, hc, Bool.or_true]
    · simp at h

/-- A run of a set is passed up to the first character that is not in the set. -/
theorem passes_skip (x : CharSet) (s : Cursor) : s.Passes (s.rest.takeWhile x.mem) (s.skip x) := by
  have key : ∀ (r : List Char) (p : Option Char) (n : Nat) (e : n = r.length),
      Passes ⟨p, r, n, e⟩ (r.takeWhile x.mem) (skipFrom x p r n e) := by
    intro r
    induction r with
    | nil => intro p n e; exact .nil _
    | cons c r ih =>
      intro p n e
      by_cases hc : x.mem c
      · have hfirst : Passes ⟨p, c :: r, n, e⟩ [c] ⟨some c, r, n - 1, by simp [e]⟩ := ⟨rfl, rfl⟩
        simp only [skipFrom, hc, if_true, List.takeWhile_cons_of_pos hc]
        exact hfirst.append (ih _ _ _)
      · simp only [skipFrom, hc, List.takeWhile_cons_of_neg hc]
        exact .nil _
  exact key s.rest s.prev s.left s.left_eq

theorem reachesBy_skip (x : CharSet) (s : Cursor) : s.ReachesBy x.mem (s.skip x) :=
  ⟨_, passes_skip x s, fun _ hc => List.mem_takeWhile_imp hc⟩

end Cursor

def Stride.takes (u : Stride) (c : Char) : Bool := u.any fun xs => xs.any (·.mem c)

namespace Stride

variable {u : Stride} {s t : Cursor}

theorem reachesBy_step? (h : u.step? s = some t) : s.ReachesBy u.takes t := by
  obtain ⟨xs, hm, hx⟩ := List.exists_of_findSome?_eq_some h
  exact (Cursor.reachesBy_steps? hx).mono fun c hc => List.any_eq_true.mpr ⟨xs, hm, hc⟩

theorem reachesBy_steps? {n : Nat} (h : u.steps? n s = some t) : s.ReachesBy u.takes t := by
  induction n generalizing s with
  | zero =>
    obtain rfl := Option.some.inj h
    exact .refl s
  | succ n ih =>
    unfold steps? at h
    split at h
    · rename_i v hv
      exact (reachesBy_step? hv).trans (ih h)
    · simp at h

/-- Greedy strides stop at the places collected before or at later places. -/
theorem reachesBy_of_mem_reach {n : Nat} {nearer : List Cursor} (h : t ∈ u.reach n s nearer) :
    t ∈ nearer ∨ s.ReachesBy u.takes t := by
  induction n generalizing s nearer with
  | zero =>
    rcases List.mem_cons.mp h with rfl | h
    · exact .inr (.refl t)
    · exact .inl h
  | succ n ih =>
    unfold reach at h
    split at h
    · rename_i v hv
      rcases ih h with h | h
      · rcases List.mem_cons.mp h with rfl | h
        · exact .inr (.refl t)
        · exact .inl h
      · exact .inr ((reachesBy_step? hv).trans h)
    · rcases List.mem_cons.mp h with rfl | h
      · exact .inr (.refl t)
      · exact .inl h

theorem reachesBy_findNearest {k : Cursor → Option Cursor} {r : Cursor} {n : Nat}
    (h : u.findNearest k n s = some r) : ∃ t, s.ReachesBy u.takes t ∧ k t = some r := by
  induction n generalizing s with
  | zero => exact ⟨s, .refl s, h⟩
  | succ n ih =>
    unfold findNearest at h
    split at h
    · rename_i v hv
      obtain rfl := Option.some.inj h
      exact ⟨s, .refl s, hv⟩
    · split at h
      · rename_i v hv
        obtain ⟨t, ht, hk⟩ := ih h
        exact ⟨t, (reachesBy_step? hv).trans ht, hk⟩
      · simp at h

/-- A repetition, greedy or not, goes on from a place that its strides reach. -/
theorem reachesBy_repeat {k : Cursor → Option Cursor} {r : Cursor} {n : Nat} {greedy : Bool}
    (h : (if greedy then (u.reach n s []).findSome? k else u.findNearest k n s) = some r) :
    ∃ t, s.ReachesBy u.takes t ∧ k t = some r := by
  split at h
  · obtain ⟨t, ht, hk⟩ := List.exists_of_findSome?_eq_some h
    rcases reachesBy_of_mem_reach ht with ht | ht
    · simp at ht
    · exact ⟨t, ht, hk⟩
  · exact reachesBy_findNearest h

end Stride

namespace Pattern

/-- Whether some set of the pattern, among those that matches are made of, holds the character. -/
def takes : Pattern → Char → Bool
  | sets xs, c => xs.any (·.mem c)
  | seq p q, c => p.takes c || q.takes c
  | alt p q, c => p.takes c || q.takes c
  | many u _ _ _, c => u.takes c
  | skip x, c => x.mem c
  | group _ p, c => p.takes c
  | _, _ => false

/-- A match ends behind characters that the pattern takes, and what follows goes on from there. -/
theorem reachesBy_run {p : Pattern} {s r : Cursor} {k : Cursor → Option Cursor}
    (h : p.run s k = some r) : ∃ t, s.ReachesBy p.takes t ∧ k t = some r := by
  induction p generalizing s k with
  | empty => exact ⟨s, .refl s, h⟩
  | sets xs =>
    unfold run at h
    split at h
    · rename_i t ht
      exact ⟨t, Cursor.reachesBy_steps? ht, h⟩
    · simp at h
  | seq p q ihp ihq =>
    obtain ⟨t, ht, hq⟩ := ihp h
    obtain ⟨v, hv, hk⟩ := ihq hq
    have hfirst := ht.mono (q := (seq p q).takes) fun c hc => Bool.or_eq_true_iff.mpr (.inl hc)
    have hsecond := hv.mono (q := (seq p q).takes) fun c hc => Bool.or_eq_true_iff.mpr (.inr hc)
    exact ⟨v, hfirst.trans hsecond, hk⟩
  | alt p q ihp ihq =>
    unfold run at h
    split at h
    · rename_i v hv
      obtain rfl := Option.some.inj h
      obtain ⟨t, ht, hk⟩ := ihp hv
      exact ⟨t, ht.mono fun c hc => Bool.or_eq_true_iff.mpr (.inl hc), hk⟩
    · obtain ⟨t, ht, hk⟩ := ihq h
      exact ⟨t, ht.mono fun c hc => Bool.or_eq_true_iff.mpr (.inr hc), hk⟩
  | many u least most greedy =>
    unfold run at h
    split at h
    · simp at h
    · rename_i t ht
      obtain ⟨v, hv, hk⟩ := Stride.reachesBy_repeat h
      exact ⟨v, (Stride.reachesBy_steps? ht).trans hv, hk⟩
  | skip x => exact ⟨s.skip x, Cursor.reachesBy_skip x s, h⟩
  | group captured p ih => exact ih h
  | _ =>
    -- tests of the place itself
    simp only [run, Option.ite_none_right_eq_some] at h
    exact ⟨s, .refl s, h.2⟩

/-- A match ends at a place that is reached from where it was tried, and what follows goes on from
there. -/
theorem reaches_run {p : Pattern} {s r : Cursor} {k : Cursor → Option Cursor}
    (h : p.run s k = some r) : ∃ t, s.Reaches t ∧ k t = some r := by
  obtain ⟨t, ht, hk⟩ := reachesBy_run h
  exact ⟨t, ht.reaches, hk⟩

end Pattern

end FencedChat
