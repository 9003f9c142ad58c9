/-!
Lists of pairs in which each key stands once, in the order in which the keys were first put.
-/

namespace FencedChat

/-- Values by key, in the order in which the keys were first put. -/
abbrev Listing (α : Type) := List (String × α)

namespace Listing

/-- The listing with a value under a key. A known key keeps its place. -/
def put {α : Type} (key : String) (value : α) : Listing α → Listing α
  | [] => [(key, value)]
  | (k, v) :: rest => if k = key then (k, value) :: rest else (k, v) :: put key value rest

theorem lookup_cons_eq {α : Type} (k q : String) (v : α) (l : Listing α) :
    List.lookup k ((q, v) :: l) = if k = q then some v else List.lookup k l := by
  by_cases h : k = q
  · simp [h]
  · have hb : (k == q) = false := by simp [h]
    simp [List.lookup_cons, h, hb]

/-- What is looked up after a value was put. -/
theorem lookup_put {α : Type} (key k : String) (value : α) (l : Listing α) :
    List.lookup k (put key value l) = if k = key then some value else List.lookup k l := by
  induction l with
  | nil => simp [put, lookup_cons_eq]
  | cons p rest ih =>
    obtain ⟨q, v⟩ := p
    by_cases hq : q = key
    · simp only [put, hq, if_true, lookup_cons_eq]
      split <;> rfl
    · simp only [put, hq, if_false, lookup_cons_eq, ih]
      by_cases h : k = q
      · simp [h, hq]
      · simp [h]

theorem mem_of_lookup {α : Type} {key : String} {value : α} {l : Listing α}
    (h : List.lookup key l = some value) : (key, value) ∈ l := by
  obtain ⟨before, after, hl, _⟩ := List.lookup_eq_some_iff.mp h
  simp [hl]

def ofPairs {α : Type} (pairs : List (String × α)) : Listing α :=
  pairs.foldl (fun l p => put p.1 p.2 l) []

end Listing

end FencedChat
