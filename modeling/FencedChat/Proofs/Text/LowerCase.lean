import FencedChat.Proofs.Text.Blank
import FencedChat.Text.Case

/-!
Lower case is reached in one step. The letters that capitals are mapped to lie in no range of
capitals, and they are no blanks. So the lower case of a text is its own lower case, and a text
without blanks at its ends has a lower case without blanks at its ends.
-/

namespace FencedChat

namespace CaseRange

def low (r : CaseRange) : Nat := (r.first + r.shift).toNat

def high (r : CaseRange) : Nat := (r.last + r.shift).toNat

/-- Whether none of the code points from `low` to `high`, `step` apart, lies in one of the ranges.
They may lie between the members of a range of every other code point. -/
def avoids (low high step : Nat) : List CaseRange → Bool
  | [] => true
  | r :: rest =>
    if high < r.first then true
    else
      (decide (r.last < low) ||
        (r.step == 2 && (step == 2 || low == high) && (low + r.first) % 2 == 1)) &&
      avoids low high step rest

variable {low high step n : Nat} {ranges : List CaseRange}

theorem lowerCode_of_avoids (h : avoids low high step ranges = true) (hlow : low ≤ n)
    (hhigh : n ≤ high) (hstep : (n - low) % step = 0) : lowerCode n ranges = n := by
  induction ranges with
  | nil => rfl
  | cons r rest ih =>
    unfold lowerCode
    unfold avoids at h
    split
    · rfl
    · rename_i hfirst
      rw [if_neg (by omega), Bool.and_eq_true] at h
      obtain ⟨hr, hrest⟩ := h
      rw [if_neg, ih hrest]
      simp only [Bool.or_eq_true, Bool.and_eq_true, decide_eq_true_eq, beq_iff_eq] at hr ⊢
      rintro ⟨hlast, hmod⟩
      rcases hr with hr | ⟨⟨h2, hs⟩, hodd⟩
      · omega
      · rw [h2] at hmod
        rcases hs with rfl | rfl
        · omega
        · omega

/-- A code point stays as it is, or lies in a range and is moved by the shift of the range. -/
theorem lowerCode_cases (n : Nat) (ranges : List CaseRange) :
    lowerCode n ranges = n ∨ ∃ r ∈ ranges, r.first ≤ n ∧ n ≤ r.last ∧ (n - r.first) % r.step = 0 ∧
      lowerCode n ranges = (n + r.shift).toNat := by
  induction ranges with
  | nil => exact .inl rfl
  | cons r rest ih =>
    unfold lowerCode
    split
    · exact .inl rfl
    split
    · rename_i hfirst hr
      simp only [Bool.and_eq_true, decide_eq_true_eq, beq_iff_eq] at hr
      exact .inr ⟨r, List.mem_cons_self, by omega, hr.1, hr.2, rfl⟩
    · rcases ih with ih | ⟨q, hq, hrest⟩
      · exact .inl ih
      · exact .inr ⟨q, List.mem_cons_of_mem r hq, hrest⟩

/-- What makes the letters that a range is mapped to characters of lower case: they are in no range,
they are no blanks and not the dotted capital, and below ASCII's end there is only the letter k. -/
structure Settled (r : CaseRange) : Prop where
  shift : 0 ≤ r.first + r.shift
  avoids : avoids r.low r.high r.step upperRanges = true
  special : ∀ b ∈ 0x130 :: blankCodes, b < r.low ∨ r.high < b
  valid : r.high < 0xD800 ∨ 0xDFFF < r.low ∧ r.high < 0x110000
  ascii : 0x80 ≤ r.low ∨ r.low = 0x6B ∧ r.high = 0x6B

instance (r : CaseRange) : Decidable r.Settled :=
  decidable_of_iff (0 ≤ r.first + r.shift ∧
    CaseRange.avoids r.low r.high r.step upperRanges = true ∧
      (∀ b ∈ 0x130 :: blankCodes, b < r.low ∨ r.high < b) ∧
      (r.high < 0xD800 ∨ 0xDFFF < r.low ∧ r.high < 0x110000) ∧
      (0x80 ≤ r.low ∨ r.low = 0x6B ∧ r.high = 0x6B))
    ⟨fun ⟨h₁, h₂, h₃, h₄, h₅⟩ => ⟨h₁, h₂, h₃, h₄, h₅⟩,
      fun ⟨h₁, h₂, h₃, h₄, h₅⟩ => ⟨h₁, h₂, h₃, h₄, h₅⟩⟩

/-- One check of the whole table, each range against all others. What it says is used range by
range. -/
theorem settled_upperRanges : ∀ r ∈ upperRanges, r.Settled := by decide +kernel

theorem Settled.isValidChar {r : CaseRange} (hr : r.Settled) (hlow : r.low ≤ n)
    (hhigh : n ≤ r.high) :
    n.isValidChar := by
  rcases hr.valid with h | ⟨h, h'⟩
  · exact .inl (by omega)
  · exact .inr ⟨by omega, by omega⟩

/-- A code point above ASCII is moved to one that stays as it is. -/
theorem Settled.exists_lowerCode {r : CaseRange} (hr : r.Settled) (hfirst : r.first ≤ n)
    (hlast : n ≤ r.last) (hmod : (n - r.first) % r.step = 0) :
    r.low ≤ (n + r.shift).toNat ∧ (n + r.shift).toNat ≤ r.high ∧
      lowerCode (n + r.shift).toNat upperRanges = (n + r.shift).toNat := by
  have hshift := hr.shift
  have hlow : r.low ≤ (n + r.shift).toNat := by
    unfold low
    omega
  have hhigh : (n + r.shift).toNat ≤ r.high := by
    unfold high
    omega
  refine ⟨hlow, hhigh, lowerCode_of_avoids hr.avoids hlow hhigh ?_⟩
  have hn : (n + r.shift).toNat - r.low = n - r.first := by
    unfold low
    omega
  rw [hn, hmod]

end CaseRange

open CaseRange

theorem toNat_ofNat {n : Nat} (h : n.isValidChar) : (Char.ofNat n).toNat = n := by
  rw [Char.ofNat, dif_pos h]
  rfl

/-- A character that stays as it is in lower case. -/
def IsLower (c : Char) : Prop := lowerChar c = [c]

/-- What the lower case of a character consists of: lower-case characters, and no blanks unless the
character is one. -/
def LowerOf (c d : Char) : Prop := IsLower d ∧ (isBlank c = false → isBlank d = false)

variable {c d : Char}

theorem IsLower.ne_sigma (h : IsLower c) : c.toNat ≠ 0x3A3 := by
  intro hc
  have hsigma : c = Char.ofNat 0x3A3 := by rw [← hc, Char.ofNat_toNat]
  rw [IsLower, hsigma] at h
  exact absurd h (by decide +kernel)

theorem lowerOf_ascii (hc : c.toNat < 0x80) : LowerOf c c.toLower := by
  have hall : ∀ n < 0x80, IsLower (Char.ofNat n).toLower ∧
      (isBlank (Char.ofNat n) = false → isBlank (Char.ofNat n).toLower = false) := by
    unfold IsLower
    decide +kernel
  have h := hall c.toNat hc
  rwa [Char.ofNat_toNat] at h

theorem isLower_ofNat {n : Nat} (hvalid : n.isValidChar) (hascii : 0x80 ≤ n ∨ n = 0x6B)
    (hdot : n ≠ 0x130) (hcode : lowerCode n upperRanges = n) : IsLower (Char.ofNat n) := by
  have hn : (Char.ofNat n).toNat = n := toNat_ofNat hvalid
  unfold IsLower lowerChar
  rw [hn]
  rcases hascii with ha | rfl
  · rw [if_neg (by omega), if_neg (by simpa using hdot), hcode]
  · rfl

theorem lowerOf_lowerCode (h0 : ¬ c.toNat < 0x80) (hdot : c.toNat ≠ 0x130) :
    LowerOf c (Char.ofNat (lowerCode c.toNat upperRanges)) := by
  rcases lowerCode_cases c.toNat upperRanges with hc | ⟨r, hr, hfirst, hlast, hmod, hc⟩
  · rw [hc, Char.ofNat_toNat]
    refine ⟨?_, id⟩
    unfold IsLower lowerChar
    rw [if_neg h0, if_neg (by simpa using hdot), hc, Char.ofNat_toNat]
  · have hs := settled_upperRanges r hr
    obtain ⟨hlow, hhigh, hcode⟩ := hs.exists_lowerCode hfirst hlast hmod
    rw [hc]
    generalize (c.toNat + r.shift).toNat = n at hlow hhigh hcode
    have hspecial : n ∉ 0x130 :: blankCodes := by
      intro hn
      rcases hs.special n hn with h | h
      · omega
      · omega
    have hvalid : n.isValidChar := hs.isValidChar hlow hhigh
    refine ⟨isLower_ofNat hvalid ?_ (fun hn => hspecial (hn ▸ List.mem_cons_self)) hcode,
      fun _ => ?_⟩
    · rcases hs.ascii with h | ⟨h, h'⟩
      · exact .inl (by omega)
      · exact .inr (by omega)
    · rw [← Bool.not_eq_true]
      intro hb
      have hcodes := toNat_mem_blankCodes hb
      rw [toNat_ofNat hvalid] at hcodes
      exact hspecial (List.mem_cons_of_mem _ hcodes)

theorem lowerChar_ne_nil (c : Char) : lowerChar c ≠ [] := by
  unfold lowerChar
  split
  · simp
  split
  · simp
  · simp

theorem lowerOf_of_mem (h : d ∈ lowerChar c) : LowerOf c d := by
  unfold lowerChar at h
  split at h
  · rename_i hc
    obtain rfl := List.mem_singleton.mp h
    exact lowerOf_ascii hc
  split at h
  · simp only [List.mem_cons, List.not_mem_nil, or_false] at h
    rcases h with rfl | rfl
    · exact ⟨rfl, fun _ => rfl⟩
    · exact ⟨isLower_ofNat (by decide) (by decide) (by decide) (by decide +kernel), fun _ => rfl⟩
  · rename_i h0 hdot
    obtain rfl := List.mem_singleton.mp h
    exact lowerOf_lowerCode h0 (by simpa using hdot)

/-- An ASCII character that is no letter is the lower case of itself only. -/
theorem eq_of_mem_lowerChar (h : d ∈ lowerChar c) (hascii : d.toNat < 0x80)
    (hletter : d.isAlpha = false) :
    c = d := by
  unfold lowerChar at h
  split at h
  · rename_i hc
    obtain rfl := List.mem_singleton.mp h
    have hall : ∀ n < 0x80, (Char.ofNat n).toLower.isAlpha = false →
        Char.ofNat n = (Char.ofNat n).toLower := by
      decide +kernel
    have hsame := hall c.toNat hc
    rw [Char.ofNat_toNat] at hsame
    exact hsame hletter
  split at h
  · simp only [List.mem_cons, List.not_mem_nil, or_false] at h
    rcases h with rfl | rfl
    · exact absurd hletter (by decide)
    · exact absurd hascii (by decide)
  · rename_i h0 _
    obtain rfl := List.mem_singleton.mp h
    rcases lowerCode_cases c.toNat upperRanges with hc | ⟨r, hr, hfirst, hlast, hmod, hc⟩
    · rw [hc, Char.ofNat_toNat]
    · -- a letter above ASCII is mapped above ASCII or to the letter k
      exfalso
      have hs := settled_upperRanges r hr
      obtain ⟨hlow, hhigh, -⟩ := hs.exists_lowerCode hfirst hlast hmod
      rw [hc] at hascii hletter
      generalize (c.toNat + r.shift).toNat = n at hlow hhigh hascii hletter
      rcases hs.ascii with ha | ⟨hk, hk'⟩
      · rw [toNat_ofNat (hs.isValidChar hlow hhigh)] at hascii
        omega
      · obtain rfl : n = 0x6B := by omega
        exact absurd hletter (by decide)

/-- The lower case of a text starts with that of its first character, wherever the text stands. -/
theorem exists_lowerFrom_cons (before : List Char) (c : Char) (r : List Char) :
    ∃ w, w ≠ [] ∧ lowerFrom before (c :: r) = w ++ lowerFrom (c :: before) r ∧
    ∀ d ∈ w, LowerOf c d := by
  rw [lowerFrom]
  split
  · refine ⟨[Char.ofNat 0x3C2], by simp, rfl, fun d hd => ?_⟩
    obtain rfl := List.mem_singleton.mp hd
    exact ⟨isLower_ofNat (by decide) (by decide) (by decide) (by decide +kernel), fun _ => rfl⟩
  · exact ⟨lowerChar c, lowerChar_ne_nil c, rfl, fun d hd => lowerOf_of_mem hd⟩

theorem isLower_of_mem_lowerFrom {before s : List Char} (h : d ∈ lowerFrom before s) :
    IsLower d := by
  induction s generalizing before with
  | nil => simp [lowerFrom] at h
  | cons c r ih =>
    obtain ⟨w, -, he, hw⟩ := exists_lowerFrom_cons before c r
    rw [he, List.mem_append] at h
    rcases h with h | h
    · exact (hw d h).1
    · exact ih h

/-- The ASCII characters that are no letters are taken over into the lower case, and none comes
in. -/
theorem mem_of_mem_lowerFrom {before s : List Char} (hascii : d.toNat < 0x80)
    (hletter : d.isAlpha = false) (h : d ∈ lowerFrom before s) : d ∈ s := by
  induction s generalizing before with
  | nil => simp [lowerFrom] at h
  | cons c r ih =>
    rw [lowerFrom] at h
    split at h
    · rcases List.mem_cons.mp h with rfl | h
      · exact absurd hascii (by decide)
      · exact List.mem_cons_of_mem c (ih h)
    · rcases List.mem_append.mp h with h | h
      · exact eq_of_mem_lowerChar h hascii hletter ▸ List.mem_cons_self
      · exact List.mem_cons_of_mem c (ih h)

/-- Lower-case characters stay as they are, wherever they stand. -/
theorem lowerFrom_eq_self {s : List Char} (h : ∀ d ∈ s, IsLower d) (before : List Char) :
    lowerFrom before s = s := by
  induction s generalizing before with
  | nil => rfl
  | cons c r ih =>
    obtain ⟨hc, hr⟩ := List.forall_mem_cons.mp h
    have hlower : lowerChar c = [c] := hc
    unfold lowerFrom
    rw [if_neg (by simp [hc.ne_sigma]), hlower, ih hr]
    rfl

@[simp] theorem lower_lower (s : String) : lower (lower s) = lower s := by
  simp only [lower, String.toList_ofList]
  rw [lowerFrom_eq_self fun _ hd => isLower_of_mem_lowerFrom hd]

/-- The lower case of a text ends in that of its last character. -/
theorem isBlank_getLast?_lowerFrom {s : List Char} (h : ∀ c ∈ s.getLast?, isBlank c = false)
    (before : List Char) : ∀ d ∈ (lowerFrom before s).getLast?, isBlank d = false := by
  induction s generalizing before with
  | nil => simp [lowerFrom]
  | cons c r ih =>
    obtain ⟨w, hne, he, hw⟩ := exists_lowerFrom_cons before c r
    rw [he]
    cases r with
    | nil =>
      intro d hd
      rw [lowerFrom, List.append_nil] at hd
      exact (hw d (List.mem_of_getLast? hd)).2 (h c rfl)
    | cons q r =>
      obtain ⟨v, hv, hq, -⟩ := exists_lowerFrom_cons (c :: before) q r
      have hrest : (lowerFrom (c :: before) (q :: r)).getLast?.isSome := by
        rw [hq]
        simp [hv]
      rw [List.getLast?_append, Option.or_of_isSome hrest]
      exact ih (fun d hd => h d (by rwa [List.getLast?_cons_cons])) (c :: before)

theorem trimmed_lowerFrom {s : List Char} (h : Trimmed s) : Trimmed (lowerFrom [] s) where
  start := by
    cases s with
    | nil => simp [lowerFrom]
    | cons c r =>
      obtain ⟨w, hne, he, hw⟩ := exists_lowerFrom_cons [] c r
      rw [he, List.head?_append, Option.or_of_isSome (by simp [hne])]
      exact fun d hd => (hw d (List.mem_of_head? hd)).2 (h.start c rfl)
  stop := isBlank_getLast?_lowerFrom h.stop []

/-- Trimming the lower case of a trimmed text changes nothing. -/
@[simp] theorem trim_lower_trim (s : String) : trim (lower (trim s)) = lower (trim s) := by
  have h := (trimmed_lowerFrom (trimmed_trimChars s.toList)).trimChars_eq
  simp only [trim, lower, String.toList_ofList]
  rw [h]

/-- The lower case of a trimmed text has no ASCII characters of its own but letters. -/
theorem mem_of_mem_lower_trim {s : String} (hascii : d.toNat < 0x80) (hletter : d.isAlpha = false)
    (h : d ∈ (lower (trim s)).toList) : d ∈ s.toList := by
  rw [lower, trim, String.toList_ofList, String.toList_ofList] at h
  exact (trimChars_sublist s.toList).mem (mem_of_mem_lowerFrom hascii hletter h)

end FencedChat
