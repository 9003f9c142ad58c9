import FencedChat.Pattern.Words
import FencedChat.Proofs.Pattern.Reach

/-!
Patterns whose matches are never empty. The shape of a pattern often tells that some part of it
takes a character wherever it is tried, whatever the looks around it allow, and that no choice and
no repetition can avoid that part.
-/

namespace FencedChat

namespace Cursor

/-- `t` is a later place of the text than `s`. -/
structure Precedes (s t : Cursor) : Prop where
  reaches : s.Reaches t
  left_lt : t.left < s.left

variable {s t u : Cursor}

theorem Precedes.trans_reaches (h : s.Precedes t) (h' : t.Reaches u) : s.Precedes u where
  reaches := h.reaches.trans h'
  left_lt := Nat.lt_of_le_of_lt h'.left_le h.left_lt

theorem Reaches.trans_precedes (h : s.Reaches t) (h' : t.Precedes u) : s.Precedes u where
  reaches := h.trans h'.reaches
  left_lt := Nat.lt_of_lt_of_le h'.left_lt h.left_le

theorem precedes_step? {x : CharSet} (h : s.step? x = some t) : s.Precedes t := by
  obtain ⟨c, hc, -⟩ := passes_step? h
  have hl := hc.left
  rw [List.length_singleton] at hl
  exact ⟨⟨[c], hc⟩, by omega⟩

theorem precedes_steps? {xs : List CharSet} (hx : xs ≠ []) (h : s.steps? xs = some t) :
    s.Precedes t := by
  cases xs with
  | nil => exact absurd rfl hx
  | cons x xs =>
    unfold steps? at h
    split at h
    · rename_i v hv
      exact (precedes_step? hv).trans_reaches (reachesBy_steps? h).reaches
    · simp at h

end Cursor

def Stride.advances (u : Stride) : Bool := u.all fun xs => !xs.isEmpty

theorem Stride.precedes_step? {u : Stride} {s t : Cursor} (hu : u.advances = true)
    (h : u.step? s = some t) : s.Precedes t := by
  obtain ⟨xs, hm, hx⟩ := List.exists_of_findSome?_eq_some h
  have hne : xs ≠ [] := by
    have := List.all_eq_true.mp hu xs hm
    simpa using this
  exact Cursor.precedes_steps? hne hx

theorem Stride.precedes_steps? {u : Stride} {n : Nat} {s t : Cursor} (hu : u.advances = true)
    (hn : 0 < n) (h : u.steps? n s = some t) : s.Precedes t := by
  obtain ⟨n, rfl⟩ := Nat.exists_eq_succ_of_ne_zero (Nat.ne_of_gt hn)
  unfold steps? at h
  split at h
  · rename_i v hv
    exact (Stride.precedes_step? hu hv).trans_reaches (reachesBy_steps? h).reaches
  · simp at h

namespace Pattern

/-- Whether the shape of a pattern tells that its matches are never empty. -/
def advances : Pattern → Bool
  | sets xs => !xs.isEmpty
  | seq p q => p.advances || q.advances
  | alt p q => p.advances && q.advances
  | many u least _ _ => decide (0 < least) && u.advances
  | group _ p => p.advances
  | _ => false

/-- A match of a pattern that advances ends behind the place where it was tried. -/
theorem precedes_run {p : Pattern} {s r : Cursor} {k : Cursor → Option Cursor}
    (hp : p.advances = true) (h : p.run s k = some r) : ∃ t, s.Precedes t ∧ k t = some r := by
  induction p generalizing s k with
  | sets xs =>
    have hx : xs ≠ [] := by simpa [advances] using hp
    unfold run at h
    split at h
    · rename_i t ht
      exact ⟨t, Cursor.precedes_steps? hx ht, h⟩
    · simp at h
  | seq p q ihp ihq =>
    rcases Bool.or_eq_true_iff.mp hp with hp | hq
    · obtain ⟨t, ht, hrest⟩ := ihp hp h
      obtain ⟨v, hv, hk⟩ := reaches_run hrest
      exact ⟨v, ht.trans_reaches hv, hk⟩
    · obtain ⟨t, ht, hrest⟩ := reaches_run (k := fun t => q.run t k) h
      obtain ⟨v, hv, hk⟩ := ihq hq hrest
      exact ⟨v, ht.trans_precedes hv, hk⟩
  | alt p q ihp ihq =>
    obtain ⟨hp, hq⟩ := Bool.and_eq_true_iff.mp hp
    unfold run at h
    split at h
    · rename_i v hv
      obtain rfl := Option.some.inj h
      exact ihp hp hv
    · exact ihq hq h
  | many u least most greedy =>
    obtain ⟨hl, hu⟩ := Bool.and_eq_true_iff.mp hp
    unfold run at h
    split at h
    · simp at h
    · rename_i t ht
      obtain ⟨v, hv, hk⟩ := Stride.reachesBy_repeat h
      have hprecedes := Stride.precedes_steps? hu (of_decide_eq_true hl) ht
      exact ⟨v, hprecedes.trans_reaches hv.reaches, hk⟩
  | group captured p ih => exact ih hp h
  | _ => simp [advances] at hp

theorem advances_oneOf {ps : List Pattern} (hne : ps ≠ []) (h : ∀ p ∈ ps, p.advances = true) :
    (oneOf ps).advances = true := by
  induction ps with
  | nil => exact absurd rfl hne
  | cons p ps ih =>
    obtain ⟨hp, hps⟩ := List.forall_mem_cons.mp h
    cases ps with
    | nil => exact hp
    | cons q qs =>
      have hq := ih (List.cons_ne_nil q qs) hps
      exact Bool.and_eq_true_iff.mpr ⟨hp, hq⟩

/-- Words that are not empty take their characters, whatever the set that each character stands
for. -/
theorem advances_of_words {names : List String} (hne : names ≠ []) {f : Char → CharSet}
    (h : "" ∉ names) :
    (all [notAfter wordNeighbour, group false (oneOf ((wordOrder names).map fun w =>
      sets (w.toList.map f))), notBefore (set wordNeighbour)]).advances = true := by
  have hwords : (oneOf ((wordOrder names).map fun w => sets (w.toList.map f))).advances = true := by
    apply advances_oneOf
    · intro hm
      obtain ⟨w, hw⟩ := List.exists_mem_of_ne_nil names hne
      have hmem : w ∈ wordOrder names := mem_wordOrder.mpr hw
      rw [List.map_eq_nil_iff] at hm
      rw [hm] at hmem
      exact List.not_mem_nil hmem
    · intro p hp
      obtain ⟨w, hw, rfl⟩ := List.mem_map.mp hp
      have hempty : w ≠ "" := fun he => h (he ▸ mem_wordOrder.mp hw)
      simpa [advances] using hempty
  simp only [all, advances, notAfter, Bool.false_or, hwords, Bool.true_or]

theorem advances_words {names : List String} (hne : names ≠ []) (h : "" ∉ names) :
    (words names).advances = true := advances_of_words hne h

theorem advances_wordsAnyCase {names : List String} (hne : names ≠ []) (h : "" ∉ names) :
    (wordsAnyCase names).advances = true := advances_of_words hne h

end Pattern

end FencedChat
