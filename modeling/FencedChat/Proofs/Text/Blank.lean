import FencedChat.Text.Blank
import Mathlib.Data.List.TakeWhile

/-!
Blank characters by their code points, and texts with no blank at either end, which trimming leaves
as they are.
-/

namespace FencedChat

def blankCodes : List Nat :=
  [0x09, 0x0A, 0x0B, 0x0C, 0x0D, 0x1C, 0x1D, 0x1E, 0x1F, 0x20, 0x85, 0xA0, 0x1680, 0x2000, 0x2001,
   0x2002, 0x2003, 0x2004, 0x2005, 0x2006, 0x2007, 0x2008, 0x2009, 0x200A, 0x2028, 0x2029, 0x202F,
   0x205F, 0x3000]

theorem toNat_mem_blankCodes {c : Char} (h : isBlank c = true) : c.toNat ∈ blankCodes := by
  simp only [isBlank, Bool.or_eq_true, Bool.and_eq_true, decide_eq_true_eq, beq_iff_eq] at h
  simp only [blankCodes, List.mem_cons, List.not_mem_nil, or_false]
  omega

/-- Whether no blank stands at the start or at the end of a text. -/
structure Trimmed (s : List Char) : Prop where
  start : ∀ c ∈ s.head?, isBlank c = false
  stop : ∀ c ∈ s.getLast?, isBlank c = false

variable {s : List Char}

theorem isBlank_head?_dropWhile (s : List Char) :
    ∀ c ∈ (s.dropWhile isBlank).head?, isBlank c = false := by
  intro c hc
  have h := List.head?_dropWhile_not isBlank s
  rw [Option.mem_def.mp hc] at h
  exact h

/-- Blanks are cut off at the end only: what is left is the start of the text and ends in no
blank. -/
theorem exists_trimEndChars (s : List Char) : ∃ blanks, s = trimEndChars s ++ blanks ∧
    (∀ c ∈ blanks, isBlank c = true) ∧ ∀ c ∈ (trimEndChars s).getLast?, isBlank c = false := by
  refine ⟨(s.reverse.takeWhile isBlank).reverse, ?_, ?_, ?_⟩
  · rw [trimEndChars, ← List.reverse_append, List.takeWhile_append_dropWhile, List.reverse_reverse]
  · intro c hc
    exact List.mem_takeWhile_imp (List.mem_reverse.mp hc)
  · rw [trimEndChars, List.getLast?_reverse]
    exact isBlank_head?_dropWhile s.reverse

theorem trimEndChars_eq_self (h : ∀ c ∈ s.getLast?, isBlank c = false) : trimEndChars s = s := by
  rw [← List.head?_reverse] at h
  rw [trimEndChars, List.reverse_eq_iff]
  cases hr : s.reverse with
  | nil => rfl
  | cons c r =>
    rw [hr] at h
    exact List.dropWhile_cons_of_neg (by simp [h c rfl])

theorem trimmed_trimChars (s : List Char) : Trimmed (trimChars s) := by
  obtain ⟨blanks, hs, -, hlast⟩ := exists_trimEndChars (s.dropWhile isBlank)
  refine ⟨fun c hc => ?_, hlast⟩
  apply isBlank_head?_dropWhile s
  have hc : (trimEndChars (s.dropWhile isBlank)).head? = some c := hc
  rw [hs, List.head?_append, hc]
  rfl

theorem Trimmed.trimChars_eq (h : Trimmed s) : trimChars s = s := by
  have hstart : s.dropWhile isBlank = s := by
    cases s with
    | nil => rfl
    | cons c s => exact List.dropWhile_cons_of_neg (by simp [h.start c rfl])
  rw [trimChars, hstart, trimEndChars_eq_self h.stop]

theorem trimChars_sublist (s : List Char) : (trimChars s).Sublist s := by
  obtain ⟨blanks, hs, -, -⟩ := exists_trimEndChars (s.dropWhile isBlank)
  have hprefix : trimChars s <+: s.dropWhile isBlank := ⟨blanks, hs.symm⟩
  exact hprefix.sublist.trans (List.dropWhile_sublist isBlank)

theorem trimChars_eq_nil_iff : trimChars s = [] ↔ ∀ c ∈ s, isBlank c = true := by
  rw [trimChars, trimEndChars, List.reverse_eq_nil_iff, List.dropWhile_eq_nil_iff]
  constructor
  · intro h c hc
    rw [← List.takeWhile_append_dropWhile (p := isBlank) (l := s), List.mem_append] at hc
    rcases hc with hc | hc
    · exact List.mem_takeWhile_imp hc
    · exact h c (List.mem_reverse.mpr hc)
  · intro h c hc
    exact h c ((List.dropWhile_sublist isBlank).mem (List.mem_reverse.mp hc))

theorem trim_eq_empty_iff {s : String} : trim s = "" ↔ isBlankText s = true := by
  rw [trim, isBlankText, List.all_eq_true, ← trimChars_eq_nil_iff]
  exact String.ofList_eq_empty_iff

end FencedChat
