import FencedChat.Pattern.Basic

/-!
Patterns for whole words. A word must not touch a word character or a dollar sign on either side,
and longer words are tried first, so that a word never hides a longer one that it begins.
-/

namespace FencedChat.Pattern

/-- Whether `v` is tried before `w`: longer words first, words of one length in the order of their
characters. -/
def triedBefore (v w : String) : Bool :=
  if v.length = w.length then decide (v ≤ w) else decide (w.length < v.length)

def insertWord (w : String) : List String → List String
  | [] => [w]
  | v :: vs => if triedBefore w v then w :: v :: vs else v :: insertWord w vs

def wordOrder (names : List String) : List String := names.eraseDups.foldr insertWord []

/-- What a word must not touch: word characters and the dollar sign. -/
def wordNeighbour : CharSet := .of [.word, .char '$']

def words (names : List String) : Pattern :=
  all [notAfter wordNeighbour, group false (oneOf ((wordOrder names).map text)),
    notBefore (set wordNeighbour)]

def wordsAnyCase (names : List String) : Pattern :=
  all [notAfter wordNeighbour,
    group false (oneOf ((wordOrder names).map fun w => sets (w.toList.map .anyCase))),
    notBefore (set wordNeighbour)]

theorem mem_insertWord {w v : String} {vs : List String} :
    v ∈ insertWord w vs ↔ v = w ∨ v ∈ vs := by
  induction vs with
  | nil => simp [insertWord]
  | cons u us ih =>
    unfold insertWord
    split
    · simp
    · simp only [List.mem_cons, ih]
      exact or_left_comm

@[simp] theorem mem_wordOrder {v : String} {names : List String} :
    v ∈ wordOrder names ↔ v ∈ names := by
  have h : ∀ l : List String, v ∈ l.foldr insertWord [] ↔ v ∈ l := by
    intro l
    induction l with
    | nil => simp
    | cons w l ih => simp [mem_insertWord, ih]
  rw [wordOrder, h, List.mem_eraseDups]

theorem captures_oneOf {ps : List Pattern} (h : ∀ p ∈ ps, p.captures = false) :
    (oneOf ps).captures = false := by
  induction ps with
  | nil => rfl
  | cons p ps ih =>
    cases ps with
    | nil => exact h p List.mem_cons_self
    | cons q qs =>
      simp only [oneOf, captures, Bool.or_eq_false_iff]
      exact ⟨h p List.mem_cons_self, ih fun r hr => h r (List.mem_cons_of_mem _ hr)⟩

theorem run_oneOf_eq_none {ps : List Pattern} (hne : ps ≠ []) {s : Cursor}
    {k : Cursor → Option Cursor} (h : ∀ p ∈ ps, p.run s k = none) : (oneOf ps).run s k = none := by
  induction ps with
  | nil => exact absurd rfl hne
  | cons p ps ih =>
    cases ps with
    | nil => exact h p List.mem_cons_self
    | cons q qs =>
      simp only [oneOf, run, h p List.mem_cons_self]
      exact ih (by simp) fun r hr => h r (List.mem_cons_of_mem _ hr)

/-- No run of sets matches at the end of a text, unless it is the empty one. -/
theorem run_sets_atEnd {xs : List CharSet} (hx : xs ≠ []) (k : Cursor → Option Cursor) :
    (sets xs).run (.start []) k = none := by
  cases xs with
  | nil => exact absurd rfl hx
  | cons x xs => rfl

@[simp] theorem captures_words (names : List String) : (words names).captures = false := by
  simp only [words, all, captures, notAfter, notBefore, set, Bool.or_false, Bool.false_or]
  exact captures_oneOf fun p hp => by
    obtain ⟨w, _, rfl⟩ := List.mem_map.1 hp
    rfl

@[simp] theorem captures_wordsAnyCase (names : List String) :
    (wordsAnyCase names).captures = false := by
  simp only [wordsAnyCase, all, captures, notAfter, notBefore, set, Bool.or_false, Bool.false_or]
  exact captures_oneOf fun p hp => by
    obtain ⟨w, _, rfl⟩ := List.mem_map.1 hp
    rfl

/-- Words that are not empty never match the empty text. -/
theorem matchesEmpty_of_words {names : List String} (hne : names ≠ []) {f : Char → CharSet}
    (h : "" ∉ names) :
    (all [notAfter wordNeighbour, group false (oneOf ((wordOrder names).map fun w =>
      sets (w.toList.map f))), notBefore (set wordNeighbour)]).matchesEmpty = false := by
  simp only [matchesEmpty, match?, all, notAfter, run, Option.isSome_eq_false_iff,
    Option.isNone_iff_eq_none]
  split
  · refine run_oneOf_eq_none ?_ ?_
    · cases names with
      | nil => exact absurd rfl hne
      | cons w ws =>
        intro hm
        have : w ∈ wordOrder (w :: ws) := mem_wordOrder.2 List.mem_cons_self
        rw [List.map_eq_nil_iff] at hm
        simp [hm] at this
    · intro p hp
      obtain ⟨w, hw, rfl⟩ := List.mem_map.1 hp
      refine run_sets_atEnd ?_ _
      intro hm
      rw [List.map_eq_nil_iff, String.toList_eq_nil_iff] at hm
      exact h (hm ▸ mem_wordOrder.1 hw)
  · rfl

theorem matchesEmpty_words {names : List String} (hne : names ≠ []) (h : "" ∉ names) :
    (words names).matchesEmpty = false := matchesEmpty_of_words hne h

theorem matchesEmpty_wordsAnyCase {names : List String} (hne : names ≠ []) (h : "" ∉ names) :
    (wordsAnyCase names).matchesEmpty = false := matchesEmpty_of_words hne h

end FencedChat.Pattern
