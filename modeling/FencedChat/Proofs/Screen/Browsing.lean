import FencedChat.Proofs.Action
import FencedChat.Screen.Browsing
import Mathlib.Data.List.Destutter
import Mathlib.Data.List.GetD

/-!
The history of sent inputs beside a place in a list of values. The list is that of all recorded
values, with equal ones in a row kept once, and the place behind its end means that nothing is
browsed. Browsing moves the place by one, and no call on the history looks up an input that is not
there.
-/

namespace FencedChat

def keptOnce (values : List String) : List String := values.destutter (· ≠ ·)

theorem destutter'_concat_ne (a b : String) (l : List String) :
    (l ++ [b]).destutter' (· ≠ ·) a =
      if (l.destutter' (· ≠ ·) a).getLast? = some b then l.destutter' (· ≠ ·) a
      else l.destutter' (· ≠ ·) a ++ [b] := by
  induction l generalizing a with
  | nil => by_cases h : a = b <;> simp [h]
  | cons c l ih =>
    by_cases h : a = c
    · rw [List.cons_append, List.destutter'_cons_neg _ (not_not_intro h),
        List.destutter'_cons_neg _ (not_not_intro h), ih]
    · obtain ⟨d, t, ht⟩ :=
        List.exists_cons_of_ne_nil (List.destutter'_ne_nil (R := (· ≠ ·)) l (a := c))
      rw [List.cons_append, List.destutter'_cons_pos _ h, List.destutter'_cons_pos _ h, ih, ht,
        List.getLast?_cons_cons]
      split <;> rfl

/-- A value behind others is kept unless it equals the last one that is kept. -/
theorem keptOnce_concat (values : List String) (value : String) :
    keptOnce (values ++ [value]) =
      if (keptOnce values).getLast? = some value then keptOnce values
      else keptOnce values ++ [value] := by
  cases values with
  | nil => rfl
  | cons a l => exact destutter'_concat_ne a value l

namespace InputHistory

/-- The history that stands at a place. Behind the inputs nothing is browsed. -/
def placed (entries : List String) (place : Nat) : InputHistory :=
  ⟨entries, if place < entries.length then some place else none⟩

variable {entries : List String} {place : Nat}

theorem cursor_placed (h : place < entries.length) : (placed entries place).cursor = some place :=
  if_pos h

theorem cursor_placed_end : (placed entries entries.length).cursor = none :=
  if_neg (Nat.lt_irrefl _)

theorem fields_placed (h : place < entries.length) :
    (placed entries place).fields = ⟨entries, some (place : Int)⟩ := by
  rw [fields, cursor_placed h]
  rfl

theorem fields_placed_end : (placed entries entries.length).fields = ⟨entries, none⟩ := by
  rw [fields, cursor_placed_end]
  rfl

theorem record_placed (value : String) :
    (placed entries place).record value =
      let kept := if entries.getLast? = some value then entries else entries ++ [value]
      placed kept kept.length := by
  simp only [record, placed, Nat.lt_irrefl, if_false]
  rfl

theorem older_placed (hp : place ≤ entries.length) (he : entries ≠ []) :
    (placed entries place).older = (entries[place - 1]?, placed entries (place - 1)) := by
  have hlen : 0 < entries.length := List.length_pos_of_ne_nil he
  have hpred : place - 1 < entries.length := by omega
  have hempty : (placed entries place).entries.isEmpty = false := by simpa [placed] using he
  unfold older
  rw [hempty]
  rcases Nat.lt_or_eq_of_le hp with h | rfl
  · rw [cursor_placed h]
    simp [placed, hpred]
  · rw [cursor_placed_end]
    simp [placed, hpred]

theorem newer_placed (h : place < entries.length) :
    (placed entries place).newer =
      (some (entries.getD (place + 1) ""), placed entries (place + 1)) := by
  unfold newer
  rw [cursor_placed h]
  by_cases hn : place + 1 < entries.length <;> simp [placed, hn]

theorem newer_placed_end :
    (placed entries entries.length).newer = (none, placed entries entries.length) := by
  unfold newer
  rw [cursor_placed_end]

end InputHistory

/-- All values recorded so far, and a place among those that are kept or behind them. -/
structure Recorded where
  values : List String
  place : Nat
  place_le : place ≤ (keptOnce values).length

namespace Recorded

def entries (r : Recorded) : List String := keptOnce r.values

def start : Recorded := ⟨[], 0, Nat.le_refl 0⟩

def record (value : String) (r : Recorded) : Recorded :=
  ⟨r.values ++ [value], (keptOnce (r.values ++ [value])).length, Nat.le_refl _⟩

theorem pred_place_lt {r : Recorded} (h : r.entries ≠ []) : r.place - 1 < r.entries.length := by
  have hp : r.place ≤ r.entries.length := r.place_le
  have hlen : 0 < r.entries.length := List.length_pos_of_ne_nil h
  omega

/-- Moves the place back by one, unless it is the first. Gives the value there. -/
def older (r : Recorded) : Option String × Recorded :=
  if h : r.entries = [] then (none, r)
  else
    have hp := pred_place_lt h
    (some r.entries[r.place - 1], ⟨r.values, r.place - 1, Nat.le_of_lt hp⟩)

/-- Moves the place on by one, unless it is behind the values. Gives the value there, and an empty
text behind the values. -/
def newer (r : Recorded) : Option String × Recorded :=
  if h : r.place < r.entries.length then
    (some (r.entries.getD (r.place + 1) ""), ⟨r.values, r.place + 1, h⟩)
  else (none, r)

def call (r : Recorded) : HistoryFields.Call → Option String × Recorded
  | .record value => (none, r.record value)
  | .older => r.older
  | .newer => r.newer

def history (r : Recorded) : InputHistory := .placed r.entries r.place

end Recorded

def InputHistory.call (h : InputHistory) : HistoryFields.Call → Option String × InputHistory
  | .record value => (none, h.record value)
  | .older => h.older
  | .newer => h.newer

namespace Recorded

variable (r : Recorded)

theorem history_record (value : String) : r.history.record value = (r.record value).history := by
  have hk : (r.record value).history = .placed (keptOnce (r.values ++ [value]))
      (keptOnce (r.values ++ [value])).length := rfl
  rw [hk, keptOnce_concat]
  exact InputHistory.record_placed value

theorem history_older : r.history.older = (r.older.1, r.older.2.history) := by
  unfold older
  split
  case isTrue h =>
    rw [history, h]
    rfl
  case isFalse h =>
    have hp : r.history.older = _ := InputHistory.older_placed r.place_le h
    rw [hp, List.getElem?_eq_getElem (pred_place_lt h)]
    rfl

theorem history_newer : r.history.newer = (r.newer.1, r.newer.2.history) := by
  unfold newer
  split
  case isTrue h => exact InputHistory.newer_placed h
  case isFalse h =>
    have hp : r.place = r.entries.length := Nat.le_antisymm r.place_le (Nat.le_of_not_lt h)
    rw [history, hp, InputHistory.newer_placed_end]

theorem older_of_ne (h : r.entries ≠ []) :
    r.older = (some (r.entries.get ⟨r.place - 1, pred_place_lt h⟩),
      ⟨r.values, r.place - 1, Nat.le_of_lt (pred_place_lt h)⟩) := dif_neg h

theorem newer_of_lt (h : r.place < r.entries.length) :
    r.newer = (some (r.entries.getD (r.place + 1) ""), ⟨r.values, r.place + 1, h⟩) := dif_pos h

theorem place_older (h : r.entries ≠ []) : r.older.2.place = r.place - 1 := by rw [r.older_of_ne h]

/-- Moving back and on again leads back, and gives the value at the place. -/
theorem newer_older (h : r.place < r.entries.length) (h0 : 0 < r.place) :
    r.older.2.newer = (some r.entries[r.place], r) := by
  have he : r.entries ≠ [] := List.ne_nil_of_length_pos (Nat.zero_lt_of_lt h)
  rw [r.older_of_ne he]
  obtain ⟨values, place, hle⟩ := r
  obtain ⟨p, rfl⟩ : ∃ p, place = p + 1 := ⟨place - 1, (Nat.sub_add_cancel h0).symm⟩
  have hvalue : (keptOnce values).getD (p + 1) "" = (keptOnce values)[p + 1] :=
    List.getD_eq_getElem _ _ h
  exact (newer_of_lt ⟨values, p, Nat.le_of_lt hle⟩ hle).trans
    (congrArg (fun value => (some value, (⟨values, p + 1, hle⟩ : Recorded))) hvalue)

theorem history_call (c : HistoryFields.Call) :
    r.history.call c = ((r.call c).1, (r.call c).2.history) := by
  cases c with
  | record value => exact congrArg (Prod.mk none) (r.history_record value)
  | older => exact r.history_older
  | newer => exact r.history_newer

end Recorded

namespace HistoryFields

namespace Action

variable {f : HistoryFields} {l : List String} {p : Nat}

@[simp] theorem run_entries : entries.run f = .ok f.entries f := rfl

@[simp] theorem run_cursor : cursor.run f = .ok f.cursor f := rfl

@[simp] theorem run_setEntries (l : List String) :
    (setEntries l).run f = .ok () { f with entries := l } := rfl

@[simp] theorem run_setCursor (c : Option Int) :
    (setCursor c).run f = .ok () { f with cursor := c } := rfl

theorem run_entryAt (h : p < f.entries.length) :
    (entryAt (some (p : Int))).run f = .ok f.entries[p] f := by
  have hp : ¬ (p : Int) < 0 := by omega
  have hm : memberAt? f.entries p = some f.entries[p] := by
    simp only [memberAt?, hp, if_false, Int.toNat_natCast, List.getElem?_eq_getElem h]
  simp [entryAt, hm]

theorem run_record (h : InputHistory) (value : String) :
    (record value).run h.fields = .ok () (h.record value).fields := by
  by_cases hl : h.entries.getLast? = some value <;>
    simp [record, InputHistory.record, InputHistory.fields, hl]

theorem run_stepBack (hp : p ≤ l.length) (hl : l ≠ []) :
    stepBack.run (InputHistory.placed l p).fields =
      .ok () (InputHistory.placed l (p - 1)).fields := by
  have hlen : 0 < l.length := List.length_pos_of_ne_nil hl
  rw [InputHistory.fields_placed (by omega : p - 1 < l.length)]
  rcases Nat.lt_or_eq_of_le hp with h | rfl
  · rw [InputHistory.fields_placed h]
    by_cases h0 : 0 < p
    · have hpred : ((p - 1 : Nat) : Int) = p - 1 := by omega
      simp [stepBack, h0, hpred]
    · obtain rfl : p = 0 := by omega
      simp [stepBack]
  · rw [InputHistory.fields_placed_end]
    have hpred : ((l.length - 1 : Nat) : Int) = l.length - 1 := by omega
    simp [stepBack, hpred]

theorem run_older (hp : p ≤ l.length) :
    older.run (InputHistory.placed l p).fields =
      .ok (InputHistory.placed l p).older.1 (InputHistory.placed l p).older.2.fields := by
  by_cases hl : l = []
  · subst hl
    rfl
  · have hpred : p - 1 < l.length := by
      have := List.length_pos_of_ne_nil hl
      omega
    have hf := InputHistory.fields_placed hpred
    rw [InputHistory.older_placed hp hl, hf, List.getElem?_eq_getElem hpred]
    have he : (InputHistory.placed l p).fields.entries = l := rfl
    have hentry : (entryAt (some ((p - 1 : Nat) : Int))).run ⟨l, some ((p - 1 : Nat) : Int)⟩ = _ :=
      run_entryAt hpred
    simp [older, he, hl, run_stepBack hp hl, hf, hentry]

theorem run_newer (hp : p ≤ l.length) :
    newer.run (InputHistory.placed l p).fields =
      .ok (InputHistory.placed l p).newer.1 (InputHistory.placed l p).newer.2.fields := by
  rcases Nat.lt_or_eq_of_le hp with h | rfl
  · rw [InputHistory.newer_placed h, InputHistory.fields_placed h]
    by_cases hn : p + 1 < l.length
    · have hi : (p : Int) < l.length - 1 := by omega
      have hentry :
          (entryAt (some ((p + 1 : Nat) : Int))).run ⟨l, some ((p + 1 : Nat) : Int)⟩ = _ :=
        run_entryAt hn
      rw [InputHistory.fields_placed hn]
      push_cast at hentry ⊢
      simp [newer, hi, hn, hentry]
    · obtain hend : p + 1 = l.length := by omega
      have hi : ¬ (p : Int) < l.length - 1 := by omega
      rw [hend, InputHistory.fields_placed_end]
      simp [newer, hi]
  · rw [InputHistory.newer_placed_end, InputHistory.fields_placed_end]
    simp [newer]

end Action

/-- A call on the fields gives what it gives at the place among the recorded values, and leads there
as well. -/
theorem run_action (c : Call) (r : Recorded) :
    c.action.run r.history.fields = .ok (r.call c).1 (r.call c).2.history.fields := by
  have hh : r.history.call c = ((r.call c).1, (r.call c).2.history) := r.history_call c
  cases c with
  | record value =>
    rw [Recorded.call, ← r.history_record]
    simp [Call.action, Action.run_record]
  | older =>
    have hr : Action.older.run r.history.fields =
        .ok (r.history.call .older).1 (r.history.call .older).2.fields :=
      Action.run_older r.place_le
    rwa [hh] at hr
  | newer =>
    have hr : Action.newer.run r.history.fields =
        .ok (r.history.call .newer).1 (r.history.call .newer).2.fields :=
      Action.run_newer r.place_le
    rwa [hh] at hr

/-- The cursor of the history at a place is the place, and there is none behind the values. -/
theorem cursor_history (r : Recorded) :
    r.history.fields.cursor = if r.place < r.entries.length then some (r.place : Int)
      else none := by
  unfold Recorded.history InputHistory.fields InputHistory.placed
  split <;> rfl

theorem cursor_history_eq_some {r : Recorded} {i : Int} (h : r.history.fields.cursor = some i) :
    (r.place : Int) = i ∧ r.place < r.entries.length := by
  rw [cursor_history] at h
  split at h
  case isTrue hp => exact ⟨Option.some.inj h, hp⟩
  case isFalse => cases h

namespace Call

variable {σ : Type}

def all (call : σ → Call → Option String × σ) (s : σ) : List Call → List (Option String) × σ
  | [] => ([], s)
  | c :: cs =>
    let rest := all call (call s c).2 cs
    ((call s c).1 :: rest.1, rest.2)

def value? : Call → Option String
  | record value => some value
  | older => none
  | newer => none

theorem values_call (r : Recorded) (c : Call) :
    (r.call c).2.values = r.values ++ c.value?.toList := by
  cases c with
  | record value => rfl
  | older =>
    simp only [Recorded.call, Recorded.older]
    split <;> simp [value?]
  | newer =>
    simp only [Recorded.call, Recorded.newer]
    split <;> simp [value?]

theorem values_all (r : Recorded) (calls : List Call) :
    (all Recorded.call r calls).2.values = r.values ++ calls.filterMap value? := by
  induction calls generalizing r with
  | nil => simp [all]
  | cons c cs ih =>
    rw [all, ih, values_call, List.append_assoc]
    cases hv : c.value? <;> simp [hv]

theorem history_all (r : Recorded) (calls : List Call) :
    all InputHistory.call r.history calls =
      ((all Recorded.call r calls).1, (all Recorded.call r calls).2.history) := by
  induction calls generalizing r with
  | nil => rfl
  | cons c cs ih => simp only [all, r.history_call, ih]

theorem run_all (r : Recorded) (calls : List Call) :
    (calls.mapM action).run r.history.fields =
      .ok (all Recorded.call r calls).1 (all Recorded.call r calls).2.history.fields := by
  induction calls generalizing r with
  | nil => rfl
  | cons c cs ih => simp [run_action, ih, all]

end Call

/-- No call on the history fails, whatever calls were made before. Each gives what moving a place
among the kept values gives, and going on right after going back gives the input that was looked at
before. -/
theorem browsing_refines (calls : List Call) :
    let moved := Call.all Recorded.call .start calls
    let history := Call.all InputHistory.call .empty calls
    ∃ f, (calls.mapM Call.action).run ⟨[], none⟩ = .ok moved.1 f ∧
      history.1 = moved.1 ∧ history.2.fields = f ∧
      f.entries = keptOnce (calls.filterMap Call.value?) ∧
      f.cursor = (if moved.2.place < f.entries.length then some (moved.2.place : Int) else none) ∧
      (∀ i ∈ f.cursor, 0 ≤ i ∧ i < f.entries.length) ∧
      ∀ (q p : Nat) (answer : Option String) (g : HistoryFields), f.cursor = some (q : Int) →
        Action.older.run f = .ok answer g → g.cursor = some (p : Int) → p < q →
        ∃ entry, f.entries[q]? = some entry ∧ Action.newer.run g = .ok (some entry) f := by
  intro moved history
  have hhistory : history = (moved.1, moved.2.history) := Call.history_all .start calls
  have hvalues : moved.2.values = calls.filterMap Call.value? := Call.values_all .start calls
  let r := moved.2
  refine ⟨r.history.fields, Call.run_all .start calls, by rw [hhistory], by rw [hhistory],
    congrArg keptOnce hvalues, cursor_history r, ?_, ?_⟩
  · intro i hi
    obtain ⟨rfl, hp⟩ := cursor_history_eq_some hi
    exact ⟨Int.natCast_nonneg _, Int.ofNat_lt.mpr hp⟩
  · intro q p answer g hq ho hp hlt
    obtain ⟨he, hplace⟩ := cursor_history_eq_some hq
    obtain rfl : r.place = q := Int.ofNat.inj he
    have hback : Action.older.run r.history.fields = .ok r.older.1 r.older.2.history.fields :=
      run_action .older r
    rw [hback] at ho
    cases ho
    have hpos : 0 < r.place := by
      obtain ⟨hpe, -⟩ := cursor_history_eq_some hp
      rw [r.place_older (List.ne_nil_of_length_pos (Nat.zero_lt_of_lt hplace))] at hpe
      omega
    have hon : Action.newer.run r.older.2.history.fields =
        .ok r.older.2.newer.1 r.older.2.newer.2.history.fields := run_action .newer r.older.2
    rw [r.newer_older hplace hpos] at hon
    exact ⟨r.entries[r.place], List.getElem?_eq_getElem hplace, hon⟩

/-- An input sent twice in a row is there once, one sent again later is there again. -/
theorem browsing_refines_repeated :
    let calls : List Call := [.record "a", .record "b", .record "b", .record "a", .older]
    let f : HistoryFields := ⟨["a", "b", "a"], some 2⟩
    let g : HistoryFields := ⟨["a", "b", "a"], some 1⟩
    (calls.mapM Call.action).run ⟨[], none⟩ = .ok [none, none, none, none, some "a"] f ∧
      Action.older.run f = .ok (some "b") g ∧ Action.newer.run g = .ok (some "a") f := by
  intro calls f g
  obtain ⟨f', hrun, -, -, -, -, -, hon⟩ := browsing_refines calls
  have hcomputed : (calls.mapM Call.action).run ⟨[], none⟩ =
      .ok [none, none, none, none, some "a"] f := rfl
  obtain rfl : f = f' := by
    rw [hcomputed] at hrun
    cases hrun
    rfl
  obtain ⟨entry, hentry, hn⟩ := hon 2 1 (some "b") g rfl rfl rfl (by decide)
  cases hentry
  exact ⟨hcomputed, rfl, hn⟩

end HistoryFields

end FencedChat
