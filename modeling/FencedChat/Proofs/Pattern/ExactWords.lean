import FencedChat.Pattern.Words
import FencedChat.Proofs.Grammar.Walk
import FencedChat.Proofs.Pattern.Delimited
import Mathlib.Data.List.Sort

/-!
Whole words. Of several words that stand alone at a place the pattern takes the longest, since
longer words are tried first and a word that something touches is given up for a shorter one. The
order in which the words are given does not matter, nor how often.
-/

namespace FencedChat

/-- The list without repetitions holds nothing twice. -/
theorem nodup_eraseDups {α : Type} [DecidableEq α] (xs : List α) : xs.eraseDups.Nodup := by
  cases xs with
  | nil => simp
  | cons x xs =>
    rw [List.eraseDups_cons, List.nodup_cons]
    exact ⟨by simp, nodup_eraseDups _⟩
termination_by xs.length
decreasing_by
  have := List.length_filter_le (fun y => !y == x) xs
  rw [List.length_cons]
  omega

namespace Pattern

/-- By its length and its characters, a word is not tried behind another. -/
def TriedFirst (v w : String) : Prop := triedBefore v w = true

instance : DecidableRel TriedFirst :=
  fun v w => inferInstanceAs (Decidable (triedBefore v w = true))

variable {u v w : String} {names names' : List String}

theorem triedFirst_iff : TriedFirst v w ↔ w.length < v.length ∨ v.length = w.length ∧ v ≤ w := by
  unfold TriedFirst triedBefore
  split
  · rename_i he
    simp [he]
  · rename_i he
    simp [he]

instance : Std.Total TriedFirst := ⟨fun v w => by
  simp only [triedFirst_iff]
  rcases Nat.lt_trichotomy v.length w.length with h | h | h
  · exact .inr (.inl h)
  · exact (String.le_total v w).imp (fun hle => .inr ⟨h, hle⟩) fun hle => .inr ⟨h.symm, hle⟩
  · exact .inl (.inl h)⟩

instance : IsTrans String TriedFirst := ⟨fun u v w huv hvw => by
  rw [triedFirst_iff] at *
  rcases huv with huv | ⟨huv, hle⟩
  · exact .inl (by omega)
  · rcases hvw with hvw | ⟨hvw, hle'⟩
    · exact .inl (by omega)
    · exact .inr ⟨huv.trans hvw, String.le_trans hle hle'⟩⟩

theorem TriedFirst.antisymm (h : TriedFirst v w) (h' : TriedFirst w v) : v = w := by
  rw [triedFirst_iff] at h h'
  rcases h with h | ⟨he, h⟩
  · omega
  · rcases h' with h' | ⟨-, h'⟩
    · omega
    · exact String.le_antisymm h h'

theorem TriedFirst.length_le (h : TriedFirst v w) : w.length ≤ v.length := by
  rw [triedFirst_iff] at h
  omega

theorem insertWord_eq_orderedInsert (w : String) (vs : List String) :
    insertWord w vs = vs.orderedInsert TriedFirst w := by
  induction vs with
  | nil => rfl
  | cons v vs ih =>
    rw [List.orderedInsert_cons, ← ih]
    rfl

theorem wordOrder_eq_insertionSort (names : List String) :
    wordOrder names = names.eraseDups.insertionSort TriedFirst := by
  unfold wordOrder
  induction names.eraseDups with
  | nil => rfl
  | cons w ws ih => rw [List.foldr_cons, ih, insertWord_eq_orderedInsert, List.insertionSort_cons]

theorem pairwise_wordOrder (names : List String) : (wordOrder names).Pairwise TriedFirst := by
  rw [wordOrder_eq_insertionSort]
  exact List.pairwise_insertionSort TriedFirst _

theorem wordOrder_ne_nil (hne : names ≠ []) : wordOrder names ≠ [] := by
  obtain ⟨w, hw⟩ := List.exists_mem_of_ne_nil names hne
  exact List.ne_nil_of_mem (mem_wordOrder.mpr hw)

/-- The words are tried in the same order, however they are given. -/
theorem wordOrder_congr (h : ∀ w, w ∈ names ↔ w ∈ names') : wordOrder names = wordOrder names' := by
  have hdups : names.eraseDups.Perm names'.eraseDups := by
    rw [List.perm_ext_iff_of_nodup (nodup_eraseDups names) (nodup_eraseDups names')]
    simpa using h
  have hperm : (wordOrder names).Perm (wordOrder names') := by
    rw [wordOrder_eq_insertionSort, wordOrder_eq_insertionSort]
    exact (List.perm_insertionSort _ _).trans (hdups.trans (List.perm_insertionSort _ _).symm)
  exact hperm.eq_of_pairwise (fun _ _ _ _ hvw hwv => hvw.antisymm hwv) (pairwise_wordOrder names)
    (pairwise_wordOrder names')

/-- A character that a whole word must not touch. -/
def TouchesWord (c : Char) : Prop := isWordChar c = true ∨ c = '$'

instance : DecidablePred TouchesWord := fun c =>
  inferInstanceAs (Decidable (isWordChar c = true ∨ c = '$'))

/-- A word stands alone between two places: it is the text between them, and nothing touches it. -/
structure StandsAlone (w : String) (s t : Cursor) : Prop where
  passes : s.Passes w.toList t
  before : ∀ c ∈ s.prev, ¬ TouchesWord c
  after : ∀ c ∈ t.rest.head?, ¬ TouchesWord c

variable {s t : Cursor}

theorem mem_wordNeighbour {c : Char} : wordNeighbour.mem c = true ↔ TouchesWord c := by
  simp [wordNeighbour, CharSet.of, CharSet.mem, CharSet.Item.mem, TouchesWord]

theorem prevIn_wordNeighbour : s.prevIn wordNeighbour = false ↔ ∀ c ∈ s.prev, ¬ TouchesWord c := by
  simp only [Cursor.prevIn, ← mem_wordNeighbour]
  cases s.prev <;> simp

theorem step?_eq_none_iff {x : CharSet} :
    s.step? x = none ↔ ∀ c ∈ s.rest.head?, x.mem c = false := by
  obtain ⟨p, r, n, e⟩ := s
  cases r <;> simp [Cursor.step?]

theorem run_notBefore_neighbour : (notBefore (set wordNeighbour)).run s some = some t ↔
    s = t ∧ ∀ c ∈ s.rest.head?, ¬ TouchesWord c := by
  have hset : (set wordNeighbour).run s some = s.step? wordNeighbour := match?_set wordNeighbour s
  have hnone : s.step? wordNeighbour = none ↔ ∀ c ∈ s.rest.head?, ¬ TouchesWord c := by
    simp only [step?_eq_none_iff, ← mem_wordNeighbour, Bool.not_eq_true]
  rw [← hnone, notBefore, run, hset]
  cases s.step? wordNeighbour <;> simp

/-- Words are tried one after the other, where nothing touches them from before. -/
theorem match?_words (hne : names ≠ []) (s : Cursor) : (words names).match? s =
    if s.prevIn wordNeighbour = false then
      (wordOrder names).findSome? fun w =>
        (text w).run s fun t => (notBefore (set wordNeighbour)).run t some
    else none := by
  have horder : (wordOrder names).map text ≠ [] := by simpa using wordOrder_ne_nil hne
  have hwords (k : Cursor → Option Cursor) :
      (group false (oneOf ((wordOrder names).map text))).run s k =
      (wordOrder names).findSome? fun w => (text w).run s k := by
    rw [run, run_oneOf horder, List.findSome?_map]
    rfl
  rw [← hwords]
  simp only [words, all, match?, notAfter]
  rw [run, run, run]
  cases s.prevIn wordNeighbour <;> rfl

theorem run_word (hs : ∀ c ∈ s.prev, ¬ TouchesWord c) :
    ((text w).run s fun t => (notBefore (set wordNeighbour)).run t some) = some t ↔
      StandsAlone w s t := by
  simp only [run_text, run_notBefore_neighbour]
  constructor
  · rintro ⟨u, hu, rfl, ha⟩
    exact ⟨hu, hs, ha⟩
  · intro h
    exact ⟨t, h.passes, rfl, h.after⟩

/-- Words of one length that start at one place are one word. -/
theorem StandsAlone.unique {s' : Cursor} (h : StandsAlone v s t) (h' : StandsAlone w s s')
    (hl : v.length = w.length) : t = s' := by
  have hrest : v.toList ++ t.rest = w.toList ++ s'.rest := h.passes.rest.symm.trans h'.passes.rest
  have hlength : v.toList.length = w.toList.length := by
    rw [String.length_toList, String.length_toList, hl]
  obtain ⟨htext, hafter⟩ := List.append_inj hrest hlength
  refine Cursor.ext ?_ hafter
  rw [h.passes.prev, h'.passes.prev, htext]

theorem exists_standsAlone (hne : names ≠ []) (h : (words names).match? s = some t) :
    ∃ w ∈ names, StandsAlone w s t ∧ ∀ v ∈ names, ∀ u, StandsAlone v s u → v.length ≤ w.length := by
  rw [match?_words hne, Option.ite_none_right_eq_some] at h
  obtain ⟨hprev, hfind⟩ := h
  have hbefore := prevIn_wordNeighbour.mp hprev
  obtain ⟨earlier, w, later, horder, hw, hearlier⟩ := List.findSome?_eq_some_iff.mp hfind
  have hmem : w ∈ names := mem_wordOrder.mp (horder ▸ by simp)
  refine ⟨w, hmem, (run_word hbefore).mp hw, ?_⟩
  intro v hv u hu
  have hfits := (run_word hbefore).mpr hu
  have hpos : v ∈ earlier ++ w :: later := horder ▸ mem_wordOrder.mpr hv
  rcases List.mem_append.mp hpos with he | hl
  · rw [hearlier v he] at hfits
    exact absurd hfits (by simp)
  · rcases List.mem_cons.mp hl with rfl | hl
    · exact Nat.le_refl _
    · have hsorted := pairwise_wordOrder names
      rw [horder, List.pairwise_append] at hsorted
      exact ((List.pairwise_cons.mp hsorted.2.1).1 v hl).length_le

theorem match?_words_isSome (hne : names ≠ []) (hw : w ∈ names) (h : StandsAlone w s t) :
    ((words names).match? s).isSome := by
  rw [match?_words hne, if_pos (prevIn_wordNeighbour.mpr h.before), List.findSome?_isSome_iff]
  refine ⟨w, mem_wordOrder.mpr hw, ?_⟩
  rw [(run_word h.before).mpr h]
  rfl

/-- The match is the longest of the words that stand alone at the place. -/
theorem match?_words_eq_some_iff (hne : names ≠ []) : (words names).match? s = some t ↔
    ∃ w ∈ names, StandsAlone w s t ∧ ∀ v ∈ names, ∀ u, StandsAlone v s u → v.length ≤ w.length := by
  constructor
  · exact exists_standsAlone hne
  · rintro ⟨w, hw, hs, hlongest⟩
    obtain ⟨u, hu⟩ := Option.isSome_iff_exists.mp (match?_words_isSome hne hw hs)
    obtain ⟨v, hv, hvs, hle⟩ := exists_standsAlone hne hu
    have hlength := Nat.le_antisymm (hlongest v hv u hvs) (hle w hw t hs)
    rw [hu, hvs.unique hs hlength]

end Pattern

end FencedChat
