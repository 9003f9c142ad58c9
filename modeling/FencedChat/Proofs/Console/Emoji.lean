import FencedChat.Console.Emoji
import FencedChat.Listing
import FencedChat.Proofs.Text.LowerCase

/-!
Texts with emoji codes. No emoji holds a bracket, a backslash or a colon, so a code that is replaced
takes its two colons away for good: a text stays as it is exactly if none of its codes stands for an
emoji.
-/

namespace FencedChat.Console

/-- How much a character counts as a sign, that is as one that decides how a text with tags and
codes is read. A backslash counts twice, so that one that is taken away is not made up for by a
bracket. -/
def signWeight : Char → Nat
  | '[' => 1
  | ':' => 1
  | '\\' => 2
  | _ => 0

def weight : List Char → Nat
  | [] => 0
  | c :: s => signWeight c + weight s

@[simp] theorem weight_nil : weight [] = 0 := rfl

@[simp] theorem weight_cons (c : Char) (s : List Char) :
    weight (c :: s) = signWeight c + weight s := rfl

@[simp] theorem weight_append (s t : List Char) : weight (s ++ t) = weight s + weight t := by
  induction s with
  | nil => simp
  | cons c s ih => rw [List.cons_append, weight_cons, weight_cons, ih, Nat.add_assoc]

@[simp] theorem weight_reverse (s : List Char) : weight s.reverse = weight s := by
  induction s with
  | nil => rfl
  | cons c s ih =>
    rw [List.reverse_cons, weight_append, ih, weight_cons, weight_cons, weight_nil, Nat.add_zero,
      Nat.add_comm]

theorem signWeight_eq_zero {c : Char} (h₁ : c ≠ '[') (h₂ : c ≠ ':') (h₃ : c ≠ '\\') :
    signWeight c = 0 := by
  unfold signWeight
  split <;> first | contradiction | rfl

theorem weight_eq_zero_iff {s : List Char} : weight s = 0 ↔ ∀ c ∈ s, signWeight c = 0 := by
  induction s with
  | nil => simp
  | cons c s ih => rw [weight_cons, Nat.add_eq_zero_iff, ih, List.forall_mem_cons]

def isSignCode (n : Nat) : Bool := n == 0x3A || n == 0x5B || n == 0x5C

theorem signWeight_ofNat {n : Nat} (h : isSignCode n = false) : signWeight (Char.ofNat n) = 0 := by
  simp only [isSignCode, Bool.or_eq_false_iff, beq_eq_false_iff_ne] at h
  obtain ⟨⟨hcolon, hbracket⟩, hslash⟩ := h
  by_cases hv : n.isValidChar
  · have hn : (Char.ofNat n).toNat = n := toNat_ofNat hv
    apply signWeight_eq_zero
    · intro he
      exact hbracket (hn.symm.trans (congrArg Char.toNat he))
    · intro he
      exact hcolon (hn.symm.trans (congrArg Char.toNat he))
    · intro he
      exact hslash (hn.symm.trans (congrArg Char.toNat he))
  · have hzero : Char.ofNat n = Char.ofNat 0 := by
      unfold Char.ofNat
      rw [dif_neg hv]
      rfl
    rw [hzero]
    rfl

theorem weight_ofCodePoints {codes : List Nat} (h : codes.all (fun n => !isSignCode n) = true) :
    weight (ofCodePoints codes) = 0 := by
  apply weight_eq_zero_iff.mpr
  intro c hc
  obtain ⟨n, hn, rfl⟩ := List.mem_map.mp hc
  exact signWeight_ofNat (by simpa using List.all_eq_true.mp h n hn)

theorem signless_emojiTable : ∀ p ∈ emojiTable, p.2.all (fun n => !isSignCode n) = true := by
  decide +kernel

theorem signless_tonedEmojiTable :
    ∀ p ∈ tonedEmojiTable, p.2.all (fun n => !isSignCode n) = true := by
  decide +kernel

theorem weight_withTone {tone : Nat} (ht : isSignCode tone = false) {s : List Char}
    (hs : weight s = 0) :
    weight (withTone tone s) = 0 := by
  cases s with
  | nil => rfl
  | cons c r =>
    have hc := signWeight_ofNat ht
    have hdrop : weight r = 0 → weight (r.drop 1) = 0 := by
      intro hr
      cases r with
      | nil => rfl
      | cons d r =>
        rw [weight_cons] at hr
        exact Nat.eq_zero_of_add_eq_zero_left hr
    obtain ⟨hfirst, hrest⟩ := Nat.add_eq_zero_iff.mp ((weight_cons c r).symm.trans hs)
    rw [withTone, weight_cons, weight_cons, hfirst, hc, Nat.zero_add, Nat.zero_add]
    split
    · exact hdrop hrest
    · exact hrest

theorem weight_tonedEmoji? {name e : List Char} (h : tonedEmoji? name = some e) : weight e = 0 := by
  obtain ⟨p, hp, he⟩ := List.exists_of_findSome?_eq_some h
  have htone : ∀ p ∈ skinTones, isSignCode p.2 = false := by decide
  dsimp only at he
  split at he
  · obtain ⟨codes, hc, rfl⟩ := Option.map_eq_some_iff.mp he
    exact weight_withTone (htone p hp)
      (weight_ofCodePoints (signless_tonedEmojiTable _ (Listing.mem_of_lookup hc)))
  · simp at he

theorem weight_flag? {name e : List Char} (h : flag? name = some e) : weight e = 0 := by
  obtain ⟨letters, -, rfl⟩ := Option.map_eq_some_iff.mp h
  apply weight_eq_zero_iff.mpr
  intro c hc
  obtain ⟨d, -, rfl⟩ := List.mem_map.mp hc
  apply signWeight_ofNat
  simp only [isSignCode, Bool.or_eq_false_iff, beq_eq_false_iff_ne]
  omega

theorem weight_emoji? {name : String} {e : List Char} (h : emoji? name = some e) :
    weight e = 0 := by
  rcases Option.or_eq_some_iff.mp h with h | ⟨-, h⟩
  · obtain ⟨codes, hc, rfl⟩ := Option.map_eq_some_iff.mp h
    rcases Option.or_eq_some_iff.mp hc with hc | ⟨-, hc⟩
    · exact weight_ofCodePoints (signless_emojiTable _ (Listing.mem_of_lookup hc))
    · exact weight_ofCodePoints (signless_tonedEmojiTable _ (Listing.mem_of_lookup hc))
  · rcases Option.or_eq_some_iff.mp h with h | ⟨-, h⟩
    · exact weight_tonedEmoji? h
    · exact weight_flag? h

theorem weight_withoutForm (name : List Char) : weight (withoutForm name).2 = 0 := by
  have hcolour : weight [colourSelector] = 0 := by decide
  have htext : weight [textSelector] = 0 := by decide
  unfold withoutForm
  split
  · exact hcolour
  · split
    · exact htext
    · rfl

theorem weight_namedEmoji? {name e : List Char} (h : namedEmoji? name = some e) : weight e = 0 := by
  obtain ⟨plain, he, rfl⟩ := Option.map_eq_some_iff.mp h
  rw [weight_append, weight_emoji? he, weight_withoutForm]

theorem eq_of_codeName? {s name rest : List Char} (h : codeName? s = some (name, rest)) :
    s = name ++ ':' :: rest := by
  unfold codeName? at h
  split at h
  · rename_i hd
    obtain ⟨rfl, rfl⟩ := Prod.mk.inj (Option.some.inj h)
    rw [← hd, List.takeWhile_append_dropWhile]
  · simp at h

/-- The names of the codes of a text, from the left to the right. A colon that ends a code starts no
other. -/
def codes (s : List Char) : List (List Char) :=
  match s with
  | [] => []
  | c :: r =>
    match _h : if c = ':' then codeName? r else none with
    | some (name, rest) => name :: codes rest
    | none => codes r
termination_by s.length
decreasing_by
  · have h : codeName? r = some (name, rest) := by split at _h <;> simp_all
    have := length_codeName? h
    simp only [List.length_cons]; omega
  · simp only [List.length_cons]; omega

theorem codes_of_notMem {s : List Char} (h : ':' ∉ s) : codes s = [] := by
  fun_induction codes s with
  | case1 => rfl
  | case2 c r name rest hc ih =>
    obtain ⟨rfl, -⟩ : c = ':' ∧ codeName? r = some (name, rest) := by
      split at hc <;> simp_all
    exact absurd List.mem_cons_self h
  | case3 c r hc ih => exact ih fun hr => h (List.mem_cons_of_mem c hr)

variable {emojiOf? : List Char → Option (List Char)}

theorem withEmoji_code {r name rest : List Char} (h : codeName? r = some (name, rest)) :
    withEmoji emojiOf? (':' :: r) =
      (emojiOf? name).getD (':' :: name ++ [':']) ++ withEmoji emojiOf? rest := by
  rw [withEmoji]
  split
  · rename_i heq
    rw [if_pos rfl, h] at heq
    cases heq
    rfl
  · rename_i heq
    rw [if_pos rfl, h] at heq
    cases heq

theorem withEmoji_cons {c : Char} {r : List Char} (h : c = ':' → codeName? r = none) :
    withEmoji emojiOf? (c :: r) = c :: withEmoji emojiOf? r := by
  rw [withEmoji]
  split
  · rename_i heq
    split at heq
    · rw [h ‹_›] at heq
      cases heq
    · cases heq
  · rfl

/-- Codes that stand for no emoji leave the text as it is. -/
theorem withEmoji_eq_self {s : List Char} (h : ∀ name ∈ codes s, emojiOf? name = none) :
    withEmoji emojiOf? s = s := by
  fun_induction codes s with
  | case1 => rw [withEmoji]
  | case2 c r name rest hc ih =>
    obtain ⟨rfl, hname⟩ : c = ':' ∧ codeName? r = some (name, rest) := by
      split at hc <;> simp_all
    obtain ⟨hfirst, hrest⟩ := List.forall_mem_cons.mp h
    rw [withEmoji_code hname, hfirst, Option.getD_none, ih hrest, eq_of_codeName? hname]
    simp
  | case3 c r hc ih =>
    have hnone : c = ':' → codeName? r = none := fun he => by simpa [he] using hc
    rw [withEmoji_cons hnone, ih h]

/-- A code that stands for an emoji takes its colons away, and nothing makes up for them. -/
theorem weight_withEmoji (hweight : ∀ name e, emojiOf? name = some e → weight e = 0)
    (s : List Char) :
    weight (withEmoji emojiOf? s) ≤ weight s ∧
      (weight (withEmoji emojiOf? s) = weight s → ∀ name ∈ codes s, emojiOf? name = none) := by
  fun_induction codes s with
  | case1 => simp [withEmoji]
  | case2 c r name rest hc ih =>
    obtain ⟨rfl, hname⟩ : c = ':' ∧ codeName? r = some (name, rest) := by
      split at hc <;> simp_all
    obtain ⟨hle, heq⟩ := ih
    have hcolon : signWeight ':' = 1 := rfl
    rw [withEmoji_code hname, eq_of_codeName? hname]
    cases hn : emojiOf? name with
    | some e =>
      simp only [Option.getD_some, weight_append, weight_cons, hweight name e hn, hcolon]
      exact ⟨by omega, by omega⟩
    | none =>
      simp only [Option.getD_none, weight_append, weight_cons, weight_nil, hcolon]
      refine ⟨by omega, fun he => ?_⟩
      exact List.forall_mem_cons.mpr ⟨hn, heq (by omega)⟩
  | case3 c r hc ih =>
    have hnone : c = ':' → codeName? r = none := fun he => by simpa [he] using hc
    rw [withEmoji_cons hnone, weight_cons, weight_cons]
    exact ⟨Nat.add_le_add_left ih.1 _, fun he => ih.2 (Nat.add_left_cancel he)⟩

end FencedChat.Console
