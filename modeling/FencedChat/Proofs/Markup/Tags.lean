import FencedChat.Markup.TokenTag
import Mathlib.Data.List.Basic
import Mathlib.Data.List.TakeWhile

/-!
Tags around classified text. What `Markup.tagged?` reads is exactly a tag of a class around text
without an opening bracket, so dropping the tags of a text takes off one tag at a time and leaves
all else.
-/

namespace FencedChat.Markup

variable {s t inner rest : List Char}

theorem tagEnd_eq : tagEnd = ['<', '/', 's', 'p', 'a', 'n', '>'] := by decide

def tagged (c : Category) (inner : List Char) : List Char :=
  tagStart ++ c.name.toList ++ ['"', '>'] ++ inner ++ tagEnd

theorem toList_wrap (c : Category) (text : String) :
    (wrap c.name text).toList = tagged c (escapeChars text.toList) :=
  String.toList_ofList

theorem openingTag?_append {c : Category} (hc : c ≠ .plain) (s : List Char) :
    openingTag? (tagStart ++ c.name.toList ++ ['"', '>'] ++ s) = some s := by
  cases c <;> first | contradiction | rfl

theorem exists_of_openingTag? (h : openingTag? s = some t) :
    ∃ c : Category, c ≠ .plain ∧ s = tagStart ++ c.name.toList ++ ['"', '>'] ++ t := by
  unfold openingTag? at h
  split at h
  · simp at h
  · rename_i r hr
    obtain ⟨c, hc, hp⟩ := List.exists_of_findSome?_eq_some h
    rw [List.isPrefixOf?_eq_some_iff_append_eq] at hr hp
    refine ⟨c, Category.mem_classified.mp hc, ?_⟩
    rw [← hr, ← hp]
    simp only [List.append_assoc]

/-- Text without an opening bracket is read up to the bracket that follows it. -/
theorem takeWhile_of_notMem (h : '<' ∉ inner) (s : List Char) :
    (inner ++ '<' :: s).takeWhile (· ≠ '<') = inner := by
  have hp : ∀ a ∈ inner, decide (a ≠ '<') = true := by
    intro a ha
    exact decide_eq_true fun he => h (he ▸ ha)
  rw [List.takeWhile_append_of_pos hp]
  simp

theorem tagged?_append {c : Category} (hc : c ≠ .plain) (h : '<' ∉ inner) (rest : List Char) :
    tagged? (tagged c inner ++ rest) = some (inner, rest) := by
  have ho : openingTag? (tagged c inner ++ rest) = some (inner ++ tagEnd ++ rest) := by
    rw [← openingTag?_append hc (inner ++ tagEnd ++ rest)]
    simp only [tagged, List.append_assoc]
  have ht : (inner ++ tagEnd ++ rest).takeWhile (· ≠ '<') = inner := by
    rw [List.append_assoc, tagEnd_eq]
    exact takeWhile_of_notMem h _
  unfold tagged?
  simp only [ho, ht]
  rw [List.append_assoc, List.drop_left, List.isPrefixOf?_eq_some_iff_append_eq.mpr rfl]
  rfl

/-- A tagged piece is the tag of a class around text without an opening bracket. -/
theorem exists_of_tagged? (h : tagged? s = some (inner, rest)) :
    ∃ c : Category, c ≠ .plain ∧ '<' ∉ inner ∧ s = tagged c inner ++ rest := by
  unfold tagged? at h
  split at h
  · simp at h
  · rename_i r hr
    obtain ⟨c, hc, hs⟩ := exists_of_openingTag? hr
    obtain ⟨q, hq, he⟩ := Option.map_eq_some_iff.mp h
    obtain ⟨rfl, rfl⟩ := Prod.mk.inj he
    rw [List.isPrefixOf?_eq_some_iff_append_eq] at hq
    refine ⟨c, hc, ?_, ?_⟩
    · intro hm
      simpa using List.mem_takeWhile_imp hm
    · have hr : r.takeWhile (· ≠ '<') ++ (tagEnd ++ q) = r := by
        rw [hq, List.prefix_iff_eq_append.mp (List.takeWhile_prefix _)]
      calc s = tagStart ++ c.name.toList ++ ['"', '>'] ++ r := hs
        _ = tagStart ++ c.name.toList ++ ['"', '>'] ++
            (r.takeWhile (· ≠ '<') ++ (tagEnd ++ q)) := by rw [hr]
        _ = tagged c (r.takeWhile (· ≠ '<')) ++ q := by simp only [tagged, List.append_assoc]

theorem length_tagged? (h : tagged? s = some (inner, rest)) : rest.length < s.length := by
  obtain ⟨c, _, _, rfl⟩ := exists_of_tagged? h
  simp only [tagged, tagEnd_eq, List.length_append, List.length_cons]
  omega

theorem tagged?_cons {c : Char} (h : c ≠ '<') (s : List Char) : tagged? (c :: s) = none := by
  cases ht : tagged? (c :: s) with
  | none => rfl
  | some p =>
    obtain ⟨inner, rest⟩ := p
    obtain ⟨k, _, _, hs⟩ := exists_of_tagged? ht
    exact absurd (List.cons.inj hs).1 h

theorem dropTagsOnto_eq (done : List Char) (n : Nat) (s : List Char) :
    dropTagsOnto done n s = done.reverse ++ dropTagsOnto [] n s := by
  induction n generalizing done s with
  | zero => cases s <;> simp [dropTagsOnto]
  | succ n ih =>
    cases s with
    | nil => simp [dropTagsOnto]
    | cons c s =>
      unfold dropTagsOnto
      split
      · rw [ih, ih (_ ++ [])]
        simp
      · rw [ih, ih [c]]
        simp

/-- Any bound on the length serves as fuel. -/
theorem dropTagsOnto_of_le {n m : Nat} (hn : s.length ≤ n) (hm : s.length ≤ m) :
    dropTagsOnto [] n s = dropTagsOnto [] m s := by
  induction n generalizing m s with
  | zero =>
    obtain rfl := List.length_eq_zero_iff.mp (Nat.le_zero.mp hn)
    simp [dropTagsOnto]
  | succ n ih =>
    cases s with
    | nil => simp [dropTagsOnto]
    | cons c s =>
      obtain ⟨m, rfl⟩ : ∃ k, m = k + 1 := ⟨m - 1, by simp only [List.length_cons] at hm; omega⟩
      simp only [List.length_cons] at hn hm
      unfold dropTagsOnto
      split
      · rename_i inner rest h
        have hl := length_tagged? h
        simp only [List.length_cons] at hl
        rw [dropTagsOnto_eq, dropTagsOnto_eq _ m, ih (m := m) (by omega) (by omega)]
      · rw [dropTagsOnto_eq, dropTagsOnto_eq _ m, ih (m := m) (by omega) (by omega)]

@[simp] theorem dropTags_nil : dropTags [] = [] := rfl

theorem dropTags_of_tagged? (h : tagged? s = some (inner, rest)) :
    dropTags s = inner ++ dropTags rest := by
  have hl := length_tagged? h
  cases s with
  | nil => simp at hl
  | cons c s =>
    simp only [List.length_cons] at hl
    rw [dropTags, List.length_cons, dropTagsOnto]
    simp only [h]
    rw [dropTagsOnto_eq, dropTagsOnto_of_le (by omega) (Nat.le_refl _)]
    simp [dropTags]

theorem dropTags_cons {c : Char} (h : tagged? (c :: s) = none) :
    dropTags (c :: s) = c :: dropTags s := by
  rw [dropTags, List.length_cons, dropTagsOnto]
  simp only [h]
  rw [dropTagsOnto_eq]
  rfl

/-- Text without opening brackets stays. -/
theorem dropTags_append (h : '<' ∉ s) (t : List Char) : dropTags (s ++ t) = s ++ dropTags t := by
  induction s with
  | nil => rfl
  | cons c s ih =>
    obtain ⟨hc, hs⟩ := List.ne_and_not_mem_of_not_mem_cons h
    rw [List.cons_append, dropTags_cons (tagged?_cons (Ne.symm hc) _), ih hs]
    rfl

theorem dropTags_tagged {c : Category} (hc : c ≠ .plain) (h : '<' ∉ inner) (rest : List Char) :
    dropTags (tagged c inner ++ rest) = inner ++ dropTags rest :=
  dropTags_of_tagged? (tagged?_append hc h rest)

end FencedChat.Markup
