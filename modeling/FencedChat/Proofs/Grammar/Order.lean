import FencedChat.Grammar.Basic
import Mathlib.Data.List.Sort

/-!
The order in which rules are tried. Sorting by priority is stable, so rules of one priority keep the
order in which they are given, and nothing else about the given order matters.
-/

namespace FencedChat.Grammar

/-- By its priority, a rule need not be tried behind another. -/
def NotBehind (r q : Rule) : Prop := r.priority ≤ q.priority

instance : DecidableRel NotBehind :=
  fun r q => inferInstanceAs (Decidable (r.priority ≤ q.priority))

instance : Std.Total NotBehind := ⟨fun r q => Int.le_total r.priority q.priority⟩

instance : IsTrans Rule NotBehind := ⟨fun _ _ _ => Int.le_trans⟩

def ofPriority (n : Int) (rules : List Rule) : List Rule := rules.filter fun r => r.priority = n

variable {r : Rule} {rules xs ys : List Rule} {n : Int}

theorem mem_ofPriority : r ∈ ofPriority n rules ↔ r ∈ rules ∧ r.priority = n := by
  simp [ofPriority]

theorem ofPriority_cons_eq (h : r.priority = n) :
    ofPriority n (r :: rules) = r :: ofPriority n rules :=
  List.filter_cons_of_pos (by simpa using h)

theorem ofPriority_cons_ne (h : r.priority ≠ n) : ofPriority n (r :: rules) = ofPriority n rules :=
  List.filter_cons_of_neg (by simpa using h)

theorem insertRule_eq_orderedInsert (r : Rule) (rules : List Rule) :
    insertRule r rules = rules.orderedInsert NotBehind r := by
  induction rules with
  | nil => rfl
  | cons q qs ih =>
    rw [List.orderedInsert_cons, ← ih]
    rfl

theorem byPriority_eq_insertionSort (rules : List Rule) :
    byPriority rules = rules.insertionSort NotBehind := by
  induction rules with
  | nil => rfl
  | cons r rs ih =>
    rw [List.insertionSort_cons, ← ih, ← insertRule_eq_orderedInsert]
    rfl

theorem perm_byPriority (rules : List Rule) : (byPriority rules).Perm rules := by
  rw [byPriority_eq_insertionSort]
  exact List.perm_insertionSort NotBehind rules

@[simp] theorem mem_byPriority : r ∈ byPriority rules ↔ r ∈ rules := (perm_byPriority rules).mem_iff

/-- What holds of every rule that a grammar is made of holds of its rules. -/
theorem forall_mem_ofRules {p : Rule → Prop} {name : String} {aliases : List String}
    {hne : rules ≠ []} (h : ∀ r ∈ rules, p r) : ∀ r ∈ (ofRules name rules aliases hne).rules, p r :=
  fun r hr => h r (mem_byPriority.mp hr)

theorem pairwise_byPriority (rules : List Rule) : (byPriority rules).Pairwise NotBehind := by
  rw [byPriority_eq_insertionSort]
  exact List.pairwise_insertionSort NotBehind rules

/-- Rules of one priority keep their order. -/
theorem ofPriority_byPriority (n : Int) (rules : List Rule) :
    ofPriority n (byPriority rules) = ofPriority n rules := by
  have hsorted : (ofPriority n rules).Pairwise NotBehind := by
    apply List.pairwise_of_forall_mem_list
    intro r hr q hq
    have hn := (mem_ofPriority.mp hr).2.trans (mem_ofPriority.mp hq).2.symm
    exact Int.le_of_eq hn
  have hsub : (ofPriority n rules).Sublist (byPriority rules) := by
    rw [byPriority_eq_insertionSort]
    exact List.sublist_insertionSort hsorted List.filter_sublist
  have hself : ofPriority n (ofPriority n rules) = ofPriority n rules := by
    simp [ofPriority]
  have hfilter : (ofPriority n rules).Sublist (ofPriority n (byPriority rules)) := by
    rw [← hself]
    exact hsub.filter _
  have hlength : (ofPriority n rules).length = (ofPriority n (byPriority rules)).length :=
    ((perm_byPriority rules).filter _).length_eq.symm
  exact (hfilter.eq_of_length hlength).symm

/-- A list in order of priority starts with the first of its rules of the lowest number. -/
theorem priority_le_of_ofPriority_eq (hy : (r :: ys).Pairwise NotBehind) {q : Rule}
    (h : ∀ n, ofPriority n (q :: xs) = ofPriority n (r :: ys)) : r.priority ≤ q.priority := by
  have hm : q ∈ ofPriority q.priority (r :: ys) := by
    rw [← h, mem_ofPriority]
    exact ⟨List.mem_cons_self, rfl⟩
  rcases List.mem_cons.mp (mem_ofPriority.mp hm).1 with rfl | hq
  · exact Int.le_refl _
  · exact (List.pairwise_cons.mp hy).1 q hq

/-- Rules in order of priority are told by the order within each priority. -/
theorem eq_of_ofPriority_eq (hx : xs.Pairwise NotBehind) (hy : ys.Pairwise NotBehind)
    (h : ∀ n, ofPriority n xs = ofPriority n ys) : xs = ys := by
  induction xs generalizing ys with
  | nil =>
    cases ys with
    | nil => rfl
    | cons r ys =>
      have hr := h r.priority
      rw [ofPriority_cons_eq rfl] at hr
      exact absurd hr (by simp [ofPriority])
  | cons q xs ih =>
    cases ys with
    | nil =>
      have hq := h q.priority
      rw [ofPriority_cons_eq rfl] at hq
      exact absurd hq (by simp [ofPriority])
    | cons r ys =>
      have hle := priority_le_of_ofPriority_eq hy h
      have hge := priority_le_of_ofPriority_eq hx fun n => (h n).symm
      have hp : r.priority = q.priority := Int.le_antisymm hle hge
      have hhead := h q.priority
      rw [ofPriority_cons_eq rfl, ofPriority_cons_eq hp] at hhead
      obtain ⟨rfl, -⟩ := List.cons.inj hhead
      have htail (n : Int) : ofPriority n xs = ofPriority n ys := by
        have hn := h n
        by_cases hq : q.priority = n
        · rw [ofPriority_cons_eq hq, ofPriority_cons_eq hq] at hn
          exact (List.cons.inj hn).2
        · rwa [ofPriority_cons_ne hq, ofPriority_cons_ne hq] at hn
      rw [ih (List.pairwise_cons.mp hx).2 (List.pairwise_cons.mp hy).2 htail]

/-- Lists of rules that agree on the order within each priority are tried in the same order. -/
theorem byPriority_congr (h : ∀ n, ofPriority n xs = ofPriority n ys) :
    byPriority xs = byPriority ys := by
  apply eq_of_ofPriority_eq (pairwise_byPriority xs) (pairwise_byPriority ys)
  intro n
  rw [ofPriority_byPriority, ofPriority_byPriority, h]

end FencedChat.Grammar
