import FencedChat.Console.Terminal
import FencedChat.Proofs.Action
import FencedChat.Proofs.Console.Emoji

/-!
Tagged texts that show themselves, on any terminal that reads tags. Whatever is taken out of a
tagged text takes signs with it: a tag its bracket, an escape a backslash, an emoji code its colons.
So what is shown is the text itself exactly if nothing is taken out at all.
-/

namespace FencedChat.StyleTag

open Console

def OpensTag (s : List Char) : Prop :=
  ∃ c inner rest, s = c :: inner ++ ']' :: rest ∧ isTagStart c = true ∧
  ∀ d ∈ inner, isBracket d = false

theorem body?_of_inner {c : Char} {inner : List Char} (hc : isTagStart c = true)
    (hinner : ∀ d ∈ inner, isBracket d = false) (rest : List Char) :
    body? (c :: inner ++ ']' :: rest) = some (c :: inner, rest) := by
  have hall : ∀ d ∈ inner, (!isBracket d) = true := by simpa using hinner
  have htake : (inner ++ ']' :: rest).takeWhile (fun d => !isBracket d) = inner := by
    rw [List.takeWhile_append_of_pos hall]
    simp [isBracket]
  have hdrop : (inner ++ ']' :: rest).dropWhile (fun d => !isBracket d) = ']' :: rest := by
    rw [List.dropWhile_append_of_pos hall]
    simp [isBracket]
  rw [List.cons_append, body?, if_pos hc, hdrop, htake]
  rfl

theorem eq_of_body? {s body rest : List Char} (h : body? s = some (body, rest)) :
    s = body ++ ']' :: rest ∧
      ∃ c inner, body = c :: inner ∧ isTagStart c = true ∧ ∀ d ∈ inner, isBracket d = false := by
  cases s with
  | nil => simp [body?] at h
  | cons c r =>
    rw [body?] at h
    split at h
    · split at h
      · rename_i hc _ rest' hd
        obtain ⟨rfl, rfl⟩ := Prod.mk.inj (Option.some.inj h)
        have hr := List.takeWhile_append_dropWhile (p := fun d => !isBracket d) (l := r)
        rw [hd] at hr
        refine ⟨by rw [List.cons_append, hr], c, _, rfl, hc, fun d hdm => ?_⟩
        simpa using List.mem_takeWhile_imp hdm
      · simp at h
    · simp at h

theorem body?_eq_none_iff {s : List Char} : body? s = none ↔ ¬ OpensTag s := by
  constructor
  · rintro h ⟨c, inner, rest, rfl, hc, hinner⟩
    rw [body?_of_inner hc hinner] at h
    simp at h
  · intro h
    cases hb : body? s with
    | none => rfl
    | some p =>
      obtain ⟨hs, c, inner, hp, hc, hinner⟩ := eq_of_body? hb
      exact absurd ⟨c, inner, p.2, hp ▸ hs, hc, hinner⟩ h

theorem isBracket_of_isTagStart {c : Char} (hc : isTagStart c = true) : isBracket c = false := by
  rw [isBracket, Bool.or_eq_false_iff, beq_eq_false_iff_ne, beq_eq_false_iff_ne]
  constructor
  · rintro rfl
    exact absurd hc (by decide)
  · rintro rfl
    exact absurd hc (by decide)

/-- A tag ends before the next bracket. -/
theorem OpensTag.of_append_bracket {s t : List Char} (h : OpensTag (s ++ '[' :: t)) :
    OpensTag s := by
  obtain ⟨c, inner, rest, he, hc, hinner⟩ := h
  rcases List.append_eq_append_iff.mp he with ⟨between, hs, ht⟩ | ⟨between, hs, ht⟩
  · -- the bracket stands inside the tag
    exfalso
    cases between with
    | nil => simp at ht
    | cons d between =>
      obtain ⟨rfl, -⟩ := List.cons.inj ht
      have hall : ∀ d ∈ c :: inner, isBracket d = false :=
        List.forall_mem_cons.mpr ⟨isBracket_of_isTagStart hc, hinner⟩
      exact absurd (hall '[' (by simp [hs])) (by decide)
  · cases between with
    | nil => simp at ht
    | cons d between =>
      obtain ⟨rfl, -⟩ := List.cons.inj ht
      exact ⟨c, inner, between, hs, hc, hinner⟩

theorem body?_append_bracket (s t : List Char) :
    body? (s ++ '[' :: t) = (body? s).map fun p => (p.1, p.2 ++ '[' :: t) := by
  cases hb : body? s with
  | none => exact body?_eq_none_iff.mpr fun h => body?_eq_none_iff.mp hb h.of_append_bracket
  | some p =>
    obtain ⟨hs, c, inner, hp, hc, hinner⟩ := eq_of_body? hb
    have hs' : s ++ '[' :: t = c :: inner ++ ']' :: (p.2 ++ '[' :: t) := by
      rw [hs, hp, List.append_assoc]
      rfl
    rw [hs', body?_of_inner hc hinner, Option.map_some, hp]

def texts (ps : List Piece) : List Char :=
  ps.flatMap fun
    | .text s => s
    | .tag _ _ => []

@[simp] theorem texts_nil : texts [] = [] := rfl

@[simp] theorem texts_text (s : List Char) (ps : List Piece) :
    texts (.text s :: ps) = s ++ texts ps := rfl

@[simp] theorem texts_tag (position : Nat) (body : List Char) (ps : List Piece) :
    texts (.tag position body :: ps) = texts ps := rfl

@[simp] theorem texts_flush (plain : List Char) (ps : List Piece) :
    texts (flush plain ps) = unescape plain.reverse ++ texts ps := by
  unfold flush
  split
  · rename_i h
    rw [List.isEmpty_iff.mp h]
    rfl
  · rfl

section

variable {emojiOf? : List Char → Option (List Char)}

@[simp] theorem visible_nil : visible emojiOf? [] = [] := rfl

@[simp] theorem visible_text (s : List Char) (ps : List Piece) :
    visible emojiOf? (.text s :: ps) = showable (withEmoji emojiOf? s) ++ visible emojiOf? ps := rfl

@[simp] theorem visible_tag (position : Nat) (body : List Char) (ps : List Piece) :
    visible emojiOf? (.tag position body :: ps) = visible emojiOf? ps := rfl

theorem visible_flush (plain : List Char) (ps : List Piece) :
    visible emojiOf? (flush plain ps) =
      showable (withEmoji emojiOf? (unescape plain.reverse)) ++ visible emojiOf? ps := by
  unfold flush
  split
  · rename_i h
    rw [List.isEmpty_iff.mp h, List.reverse_nil, unescape, withEmoji]
    rfl
  · rfl

end

@[simp] theorem tags_nil : tags [] = [] := rfl

@[simp] theorem tags_text (s : List Char) (ps : List Piece) : tags (.text s :: ps) = tags ps := rfl

@[simp] theorem tags_tag (position : Nat) (body : List Char) (ps : List Piece) :
    tags (.tag position body :: ps) = body :: tags ps := rfl

@[simp] theorem tags_flush (plain : List Char) (ps : List Piece) :
    tags (flush plain ps) = tags ps := by
  unfold flush
  split <;> rfl

variable {plain : List Char} {slashes position : Nat}

theorem piecesOnto_nil :
    piecesOnto plain slashes position [] = flush (List.replicate slashes '\\' ++ plain) [] := by
  rw [piecesOnto]

theorem piecesOnto_backslash (r : List Char) :
    piecesOnto plain slashes position ('\\' :: r) =
      piecesOnto plain (slashes + 1) (position + 1) r := by
  rw [piecesOnto, if_pos rfl]

theorem piecesOnto_plain {c : Char} {r : List Char} (hc : c ≠ '\\')
    (hr : c = '[' → body? r = none) :
    piecesOnto plain slashes position (c :: r) =
      piecesOnto (c :: (List.replicate slashes '\\' ++ plain)) 0 (position + 1) r := by
  rw [piecesOnto, if_neg hc]
  split
  · rename_i h
    split at h
    · rw [hr ‹_›] at h
      cases h
    · cases h
  · rfl

theorem piecesOnto_tag {r body rest : List Char} (hr : body? r = some (body, rest)) :
    piecesOnto plain slashes position ('[' :: r) =
      flush plain ((if slashes / 2 = 0 then [] else [.text (List.replicate (slashes / 2) '\\')]) ++
        (if slashes % 2 = 1 then .text ('[' :: body ++ [']']) else .tag position body) ::
          piecesOnto [] 0 (position + body.length + 2) rest) := by
  rw [piecesOnto, if_neg (by decide)]
  split
  · rename_i h
    rw [if_pos rfl, hr] at h
    obtain ⟨rfl, rfl⟩ := Prod.mk.inj (Option.some.inj h)
    by_cases hodd : slashes % 2 = 1
    · by_cases hhalf : slashes / 2 = 0 <;> simp [hodd, hhalf]
    · by_cases hhalf : slashes / 2 = 0 <;> simp [hodd, hhalf]
  · rename_i h
    rw [if_pos rfl, hr] at h
    cases h

/-- A tag behind an odd run of backslashes is ordinary text. -/
theorem tags_piecesOnto_tag {r body rest : List Char} (hr : body? r = some (body, rest)) :
    tags (piecesOnto plain slashes position ('[' :: r)) =
      (if slashes % 2 = 1 then [] else [body]) ++
        tags (piecesOnto [] 0 (position + body.length + 2) rest) := by
  rw [piecesOnto_tag hr, tags_flush]
  by_cases hhalf : slashes / 2 = 0
  · by_cases hodd : slashes % 2 = 1 <;> simp [hhalf, hodd]
  · by_cases hodd : slashes % 2 = 1 <;> simp [hhalf, hodd]

/-- Unescaping takes backslashes away, unless there are none before a bracket. -/
theorem weight_unescape (s : List Char) :
    weight (unescape s) ≤ weight s ∧ (weight (unescape s) = weight s → ¬ ['\\', '['] <:+: s) := by
  have hslash : signWeight '\\' = 2 := rfl
  fun_induction unescape s with
  | case1 => simp
  | case2 r ih =>
    simp only [weight_cons, hslash]
    exact ⟨by omega, by omega⟩
  | case3 c r hc ih =>
    rw [weight_cons, weight_cons]
    refine ⟨Nat.add_le_add_left ih.1 _, fun he hinfix => ?_⟩
    rcases List.infix_cons_iff.mp hinfix with hprefix | hinfix
    · obtain ⟨rest, hr⟩ := hprefix
      obtain ⟨rfl, rfl⟩ := List.cons.inj hr
      exact hc _ rfl rfl
    · exact ih.2 (Nat.add_left_cancel he) hinfix

theorem unescape_eq_self {s : List Char} (h : ¬ ['\\', '['] <:+: s) : unescape s = s := by
  fun_induction unescape s with
  | case1 => rfl
  | case2 r ih => exact absurd (List.prefix_append ['\\', '['] r).isInfix h
  | case3 c r hc ih => rw [ih fun hinfix => h (List.infix_cons hinfix)]

theorem weight_showable (s : List Char) : weight (showable s) = weight s := by
  induction s with
  | nil => rfl
  | cons c s ih =>
    cases hc : isUnshowable c with
    | true =>
      have hzero : signWeight c = 0 := by
        apply signWeight_eq_zero
        · rintro rfl
          exact absurd hc (by decide)
        · rintro rfl
          exact absurd hc (by decide)
        · rintro rfl
          exact absurd hc (by decide)
      have hs : showable (c :: s) = showable s := List.filter_cons_of_neg (by simp [hc])
      rw [hs, weight_cons, hzero, Nat.zero_add, ih]
    | false =>
      have hs : showable (c :: s) = c :: showable s := List.filter_cons_of_pos (by simp [hc])
      rw [hs, weight_cons, weight_cons, ih]

theorem showable_eq_self_iff {s : List Char} :
    showable s = s ↔ ∀ c ∈ s, isUnshowable c = false := by
  rw [showable, List.filter_eq_self]
  simp

/-- Emoji and characters that cannot be shown make no signs, and tags show nothing. -/
theorem weight_visible {emojiOf? : List Char → Option (List Char)}
    (hweight : ∀ name e, emojiOf? name = some e → weight e = 0) (ps : List Piece) :
    weight (visible emojiOf? ps) ≤ weight (texts ps) := by
  induction ps with
  | nil => rfl
  | cons p ps ih =>
    cases p with
    | text s =>
      rw [visible_text, texts_text, weight_append, weight_append, weight_showable]
      exact Nat.add_le_add (weight_withEmoji hweight s).1 ih
    | tag position body => exact ih

/-- Whether no bracket of a text starts a tag and none stands behind a backslash. -/
structure Tagless (s : List Char) : Prop where
  opens : ∀ t, '[' :: t <:+ s → ¬ OpensTag t
  escapes : ¬ ['\\', '['] <:+: s

def closing : Bool → List Char
  | false => []
  | true => ['[', '/', ']']

def closingPiece (position : Nat) : Bool → List Piece
  | false => []
  | true => [.tag position ['/']]

theorem body?_closing : body? ['/', ']'] = some (['/'], []) := rfl

theorem body?_append_closing (closed : Bool) (s : List Char) :
    body? (s ++ closing closed) = (body? s).map fun p => (p.1, p.2 ++ closing closed) := by
  cases closed with
  | false => simp [closing]
  | true => exact body?_append_bracket s ['/', ']']

@[simp] theorem weight_replicate_backslash (n : Nat) : weight (List.replicate n '\\') = 2 * n := by
  induction n with
  | zero => rfl
  | succ n ih =>
    rw [List.replicate_succ, weight_cons, ih, show signWeight '\\' = 2 from rfl]
    omega

/-- The text that was read as the ordinary text `plain`, held in reverse, and a run of
backslashes. -/
def readSoFar (plain : List Char) (slashes : Nat) : List Char :=
  plain.reverse ++ List.replicate slashes '\\'

theorem weight_readSoFar : weight (readSoFar plain slashes) = weight plain + 2 * slashes := by
  rw [readSoFar, weight_append, weight_reverse, weight_replicate_backslash]

theorem readSoFar_succ : readSoFar plain (slashes + 1) = readSoFar plain slashes ++ ['\\'] := by
  rw [readSoFar, readSoFar, List.replicate_succ', List.append_assoc]

theorem readSoFar_cons (c : Char) :
    readSoFar (c :: (List.replicate slashes '\\' ++ plain)) 0 = readSoFar plain slashes ++ [c] := by
  simp [readSoFar]

/-- Nothing is taken out of a text without tags. What is held in reverse at the end is the whole
text. -/
theorem piecesOnto_tagless (closed : Bool) {s : List Char} (hs : ∀ t, '[' :: t <:+ s → ¬ OpensTag t)
    (hlast : closed = true → (List.replicate slashes '\\' ++ s).getLast? ≠ some '\\') :
    piecesOnto plain slashes position (s ++ closing closed) =
      flush (readSoFar plain slashes ++ s).reverse (closingPiece (position + s.length) closed) := by
  induction s generalizing plain slashes position with
  | nil =>
    cases closed with
    | false =>
      rw [List.nil_append, closing, piecesOnto_nil]
      simp [readSoFar, closingPiece]
    | true =>
      have hzero : slashes = 0 := by
        cases slashes with
        | zero => rfl
        | succ n => exact absurd (by simp [List.replicate_succ']) (hlast rfl)
      subst hzero
      rw [List.nil_append, closing, piecesOnto_tag body?_closing, piecesOnto_nil]
      simp [readSoFar, closingPiece, flush]
  | cons c r ih =>
    have hr : ∀ t, '[' :: t <:+ r → ¬ OpensTag t :=
      fun t ht => hs t (ht.trans (List.suffix_cons c r))
    have hlength : position + 1 + r.length = position + (c :: r).length := by
      rw [List.length_cons]
      omega
    by_cases hc : c = '\\'
    · subst hc
      have hlast' :
          closed = true → (List.replicate (slashes + 1) '\\' ++ r).getLast? ≠ some '\\' := by
        rwa [List.replicate_succ', List.append_assoc]
      rw [List.cons_append, piecesOnto_backslash, ih hr hlast', readSoFar_succ, hlength]
      simp
    · have hbody : c = '[' → body? (r ++ closing closed) = none := by
        rintro rfl
        rw [body?_append_closing, body?_eq_none_iff.mpr (hs r List.suffix_rfl)]
        rfl
      have hlast' : closed = true → (List.replicate 0 '\\' ++ r).getLast? ≠ some '\\' := by
        intro hclosed
        cases r with
        | nil => simp
        | cons d r => simpa using hlast hclosed
      rw [List.cons_append, piecesOnto_plain hc hbody, ih hr hlast', readSoFar_cons, hlength]
      simp

/-- What is kept of the text before a tag and of the tag itself. -/
theorem weight_texts_tag {r body rest : List Char} (hr : body? r = some (body, rest)) :
    weight (texts (piecesOnto plain slashes position ('[' :: r))) =
      weight (unescape plain.reverse) + slashes + (slashes % 2) * weight body +
        weight (texts (piecesOnto [] 0 (position + body.length + 2) rest)) := by
  have hbracket : signWeight '[' = 1 ∧ signWeight ']' = 0 := ⟨rfl, rfl⟩
  rw [piecesOnto_tag hr, texts_flush, weight_append]
  have hhalf :
      weight (texts (if slashes / 2 = 0 then [] else [.text (List.replicate (slashes / 2) '\\')])) =
      2 * (slashes / 2) := by
    by_cases h : slashes / 2 = 0
    · simp [h]
    · simp [h]
  have happend (ps qs : List Piece) : texts (ps ++ qs) = texts ps ++ texts qs := List.flatMap_append
  rw [happend, weight_append, hhalf]
  rcases Nat.mod_two_eq_zero_or_one slashes with hmod | hmod
  · simp only [hmod, Nat.zero_ne_one, if_false, texts_tag]
    omega
  · simp only [hmod, if_true, texts_text, weight_append, weight_cons, weight_nil, hbracket]
    omega

/-- The weight of what the pieces keep of a text, of which `plain` and some backslashes have been
read. -/
def keptWeight (closed : Bool) (plain : List Char) (slashes position : Nat) (s : List Char) : Nat :=
  weight (texts (piecesOnto plain slashes position (s ++ closing closed)))

/-- What is kept never weighs more than the text, and it weighs the same only if nothing is taken
out. -/
structure Weighed (closed : Bool) (plain : List Char) (slashes position : Nat)
    (s : List Char) : Prop where
  le : keptWeight closed plain slashes position s ≤ weight (readSoFar plain slashes ++ s)
  untouched : keptWeight closed plain slashes position s = weight (readSoFar plain slashes ++ s) →
    (∀ t, '[' :: t <:+ s → ¬ OpensTag t) ∧ ¬ ['\\', '['] <:+: readSoFar plain slashes ++ s ∧
      (closed = true → (readSoFar plain slashes ++ s).getLast? ≠ some '\\')

variable {closed : Bool} {r : List Char}

theorem weighed_nil (hplain : plain.head? ≠ some '\\') :
    Weighed closed plain slashes position [] := by
  have hopens : ∀ t, '[' :: t <:+ [] → ¬ OpensTag t := fun t ht => by simp at ht
  cases closed with
  | false =>
    have hkept :
        keptWeight false plain slashes position [] =
          weight (unescape (readSoFar plain slashes)) := by
      rw [keptWeight, closing, List.nil_append, piecesOnto_nil, texts_flush]
      simp [readSoFar]
    obtain ⟨hle, heq⟩ := weight_unescape (readSoFar plain slashes)
    constructor
    · rwa [hkept, List.append_nil]
    · rw [hkept, List.append_nil]
      exact fun he => ⟨hopens, heq he, fun hc => nomatch hc⟩
  | true =>
    have hkept :
        keptWeight true plain slashes position [] = weight (unescape plain.reverse) + slashes := by
      rw [keptWeight, closing, List.nil_append, weight_texts_tag body?_closing, piecesOnto_nil]
      simp [signWeight, unescape]
    obtain ⟨hle, heq⟩ := weight_unescape plain.reverse
    rw [weight_reverse] at hle heq
    constructor
    · rw [hkept, List.append_nil, weight_readSoFar]
      omega
    · rw [hkept, List.append_nil, weight_readSoFar]
      intro he
      obtain rfl : slashes = 0 := by omega
      rw [show readSoFar plain 0 = plain.reverse by simp [readSoFar], List.getLast?_reverse]
      exact ⟨hopens, heq (by omega), fun _ => hplain⟩

theorem Weighed.backslash (h : Weighed closed plain (slashes + 1) (position + 1) r) :
    Weighed closed plain slashes position ('\\' :: r) := by
  have hwhole : readSoFar plain (slashes + 1) ++ r = readSoFar plain slashes ++ '\\' :: r := by
    rw [readSoFar_succ, List.append_assoc]
    rfl
  have hkept : keptWeight closed plain (slashes + 1) (position + 1) r =
      keptWeight closed plain slashes position ('\\' :: r) := by
    rw [keptWeight, ← piecesOnto_backslash]
    rfl
  obtain ⟨hle, huntouched⟩ := h
  rw [hwhole, hkept] at hle huntouched
  refine ⟨hle, fun he => ?_⟩
  obtain ⟨hopens, hrest⟩ := huntouched he
  refine ⟨fun t ht => ?_, hrest⟩
  rcases List.suffix_cons_iff.mp ht with ht | ht
  · cases ht
  · exact hopens t ht

theorem Weighed.ordinary {c : Char} (hc : c ≠ '\\') (hbody : c = '[' → body? r = none)
    (h : Weighed closed (c :: (List.replicate slashes '\\' ++ plain)) 0 (position + 1) r) :
    Weighed closed plain slashes position (c :: r) := by
  have hclosing : c = '[' → body? (r ++ closing closed) = none := by
    intro he
    rw [body?_append_closing, hbody he]
    rfl
  have hwhole : readSoFar (c :: (List.replicate slashes '\\' ++ plain)) 0 ++ r =
      readSoFar plain slashes ++ c :: r := by
    rw [readSoFar_cons, List.append_assoc]
    rfl
  have hkept : keptWeight closed (c :: (List.replicate slashes '\\' ++ plain)) 0 (position + 1) r =
      keptWeight closed plain slashes position (c :: r) := by
    rw [keptWeight, ← piecesOnto_plain hc hclosing]
    rfl
  obtain ⟨hle, huntouched⟩ := h
  rw [hwhole, hkept] at hle huntouched
  refine ⟨hle, fun he => ?_⟩
  obtain ⟨hopens, hrest⟩ := huntouched he
  refine ⟨fun t ht => ?_, hrest⟩
  rcases List.suffix_cons_iff.mp ht with ht | ht
  · obtain ⟨rfl, rfl⟩ := List.cons.inj ht
    exact body?_eq_none_iff.mp (hbody rfl)
  · exact hopens t ht

/-- A tag goes with its bracket, and an escaped one with a backslash. -/
theorem Weighed.tag {body rest : List Char} (hbody : body? r = some (body, rest))
    (h : Weighed closed [] 0 (position + body.length + 2) rest) :
    Weighed closed plain slashes position ('[' :: r) := by
  have hclosing : body? (r ++ closing closed) = some (body, rest ++ closing closed) := by
    rw [body?_append_closing, hbody]
    rfl
  have hweight : weight ('[' :: r) = 1 + weight body + weight rest := by
    rw [(eq_of_body? hbody).1, weight_cons, weight_append, weight_cons,
      show signWeight '[' = 1 from rfl, show signWeight ']' = 0 from rfl]
    omega
  have hrest := h.le
  rw [show readSoFar [] 0 = [] from rfl, List.nil_append] at hrest
  have hplain := (weight_unescape plain.reverse).1
  rw [weight_reverse] at hplain
  have hlt :
      keptWeight closed plain slashes position ('[' :: r) <
        weight (readSoFar plain slashes ++ '[' :: r) := by
    rw [keptWeight, List.cons_append, weight_texts_tag hclosing, ← keptWeight, weight_append,
      hweight, weight_readSoFar]
    rcases Nat.mod_two_eq_zero_or_one slashes with hmod | hmod
    · rw [hmod, Nat.zero_mul]
      omega
    · rw [hmod, Nat.one_mul]
      omega
  exact ⟨hlt.le, fun he => absurd he hlt.ne⟩

theorem weighed (closed : Bool) (plain : List Char) (slashes position : Nat) (s : List Char)
    (hplain : plain.head? ≠ some '\\') : Weighed closed plain slashes position s := by
  match s with
  | [] => exact weighed_nil hplain
  | c :: r =>
    by_cases hc : c = '\\'
    · subst hc
      exact (weighed closed plain (slashes + 1) (position + 1) r hplain).backslash
    · cases hb : if c = '[' then body? r else none with
      | none =>
        have hhead : (c :: (List.replicate slashes '\\' ++ plain)).head? ≠ some '\\' := by
          simpa using hc
        exact (weighed closed _ 0 (position + 1) r hhead).ordinary hc fun he => by
          rwa [if_pos he] at hb
      | some p =>
        obtain ⟨rfl, hbody⟩ : c = '[' ∧ body? r = some (p.1, p.2) := by
          split at hb
          · exact ⟨‹_›, hb⟩
          · cases hb
        have hlength := length_body? hbody
        exact (weighed closed [] 0 (position + p.1.length + 2) p.2 (by simp)).tag hbody
termination_by s.length

theorem weighed_start (closed : Bool) (position : Nat) (s : List Char) :
    Weighed closed [] 0 position s :=
  weighed closed [] 0 position s (by simp)

/-- Whether a text holds nothing that a terminal shows in another way: no tag and no escape, no code
of an emoji, and no character that cannot be shown. -/
structure Verbatim (t : Terminal) (s : List Char) : Prop extends Tagless s where
  codes : ∀ name ∈ Console.codes s, t.emoji? name = none
  visible : ∀ c ∈ s, isUnshowable c = false

def closingTags : Bool → List (List Char)
  | false => []
  | true => [['/']]

variable {s : List Char}

theorem Tagless.pieces_eq (h : Tagless s) (hlast : closed = true → s.getLast? ≠ some '\\')
    (position : Nat) : piecesOnto [] 0 position (s ++ closing closed) =
      flush s.reverse (closingPiece (position + s.length) closed) := by
  rw [piecesOnto_tagless closed h.opens (by simpa using hlast)]
  rfl

theorem Tagless.tags_eq (h : Tagless s) (hlast : closed = true → s.getLast? ≠ some '\\')
    (position : Nat) :
    tags (piecesOnto [] 0 position (s ++ closing closed)) = closingTags closed := by
  rw [h.pieces_eq hlast, tags_flush]
  cases closed <;> rfl

theorem Tagless.visible_eq (h : Tagless s) (hlast : closed = true → s.getLast? ≠ some '\\')
    (emojiOf? : List Char → Option (List Char)) (position : Nat) :
    StyleTag.visible emojiOf? (piecesOnto [] 0 position (s ++ closing closed)) =
      showable (withEmoji emojiOf? s) := by
  have hclosing (position : Nat) :
      StyleTag.visible emojiOf? (closingPiece position closed) = [] := by
    cases closed <;> rfl
  rw [h.pieces_eq hlast, visible_flush, hclosing, List.reverse_reverse, unescape_eq_self h.escapes,
    List.append_nil]

def IsBody (body : List Char) : Prop :=
  ∃ c inner, body = c :: inner ∧ isTagStart c = true ∧ ∀ d ∈ inner, isBracket d = false

variable {body : List Char}

theorem IsBody.body?_eq (h : IsBody body) (rest : List Char) :
    body? (body ++ ']' :: rest) = some (body, rest) := by
  obtain ⟨c, inner, rfl, hc, hinner⟩ := h
  exact body?_of_inner hc hinner rest

theorem IsBody.closing (h : IsBody body) : IsBody ('/' :: body) := by
  obtain ⟨c, inner, rfl, hc, hinner⟩ := h
  exact ⟨'/', c :: inner, rfl, by decide,
    List.forall_mem_cons.mpr ⟨isBracket_of_isTagStart hc, hinner⟩⟩

/-- A text that starts with a tag. -/
theorem IsBody.pieces_eq (h : IsBody body) (rest : List Char) :
    pieces ('[' :: (body ++ ']' :: rest)) =
      .tag 0 body :: piecesOnto [] 0 (0 + body.length + 2) rest :=
  piecesOnto_tag (h.body?_eq rest)

theorem isBody_slash : IsBody ['/'] := ⟨'/', [], rfl, by decide, List.forall_mem_nil _⟩

theorem isBody_of_mem {style : String} (h : style ∈ Terminal.commandStyles) :
    IsBody style.toList := by
  have hall : ∀ style ∈ Terminal.commandStyles, (style.toList.head?.any isTagStart &&
      style.toList.tail.all fun d => !isBracket d) = true := by decide
  obtain ⟨hhead, htail⟩ := Bool.and_eq_true_iff.mp (hall style h)
  obtain ⟨c, hc, hstart⟩ := (Option.any_eq_true _ _).mp hhead
  obtain ⟨inner, hbody⟩ := List.head?_eq_some_iff.mp hc
  rw [hbody] at htail
  exact ⟨c, inner, hbody, hstart, by simpa using htail⟩

theorem isClosing_of_mem {style : String} (h : style ∈ Terminal.commandStyles) :
    isClosing style.toList = false := by
  have hall : ∀ style ∈ Terminal.commandStyles, isClosing style.toList = false := by decide
  exact hall style h

def styled (style s : String) : String := "[" ++ style ++ "]" ++ s ++ "[/]"

theorem toList_styled (style s : String) :
    (styled style s).toList =
      '[' :: (style.toList ++ ']' :: (s.toList ++ StyleTag.closing true)) := by
  simp [styled, StyleTag.closing]

/-- A text between the tags of a style, the last of which says which style it closes. -/
def named (style s : String) : String := "[" ++ style ++ "]" ++ s ++ "[/" ++ style ++ "]"

theorem toList_named (style s : String) : (named style s).toList =
    '[' :: (style.toList ++ ']' :: (s.toList ++ '[' :: ('/' :: style.toList ++ ']' :: []))) := by
  simp [named]

/-- Whether nothing can be made of a character: it is no sign, and it can be shown. -/
def isPlain (c : Char) : Bool := signWeight c == 0 && !isUnshowable c

theorem isPlain_iff {c : Char} : isPlain c = true ↔ signWeight c = 0 ∧ isUnshowable c = false := by
  simp [isPlain]

theorem signWeight_of_all (h : s.all isPlain = true) : ∀ c ∈ s, signWeight c = 0 :=
  fun c hc => (isPlain_iff.mp (List.all_eq_true.mp h c hc)).1

theorem verbatim_of_all (t : Terminal) (h : s.all isPlain = true) : Verbatim t s where
  opens := fun r hr => absurd (signWeight_of_all h '[' (hr.subset List.mem_cons_self)) (by decide)
  escapes := fun hi => absurd (signWeight_of_all h '[' (hi.subset (by simp))) (by decide)
  codes := by
    have hcolon : ':' ∉ s := fun hm => absurd (signWeight_of_all h ':' hm) (by decide)
    simp [codes_of_notMem hcolon]
  visible := fun c hc => (isPlain_iff.mp (List.all_eq_true.mp h c hc)).2

theorem piecesOnto_append (hs : ∀ c ∈ s, signWeight c = 0) (rest : List Char) :
    piecesOnto plain 0 position (s ++ rest) =
      piecesOnto (s.reverse ++ plain) 0 (position + s.length) rest := by
  induction s generalizing plain position with
  | nil => rfl
  | cons c s ih =>
    obtain ⟨hc, hs⟩ := List.forall_mem_cons.mp hs
    have hslash : c ≠ '\\' := by
      rintro rfl
      exact absurd hc (by decide)
    have hbracket : c ≠ '[' := by
      rintro rfl
      exact absurd hc (by decide)
    rw [List.cons_append, piecesOnto_plain hslash (fun he => absurd he hbracket), ih hs,
      List.length_cons, Nat.add_assoc, Nat.add_comm 1]
    simp

/-- Without an opening bracket no tag starts, so nothing but ordinary text is read. -/
theorem exists_piecesOnto_append (hs : '[' ∉ s) (rest : List Char) :
    ∃ plain' slashes' position', piecesOnto plain slashes position (s ++ rest) =
      piecesOnto plain' slashes' position' rest := by
  induction s generalizing plain slashes position with
  | nil => exact ⟨plain, slashes, position, rfl⟩
  | cons c s ih =>
    obtain ⟨hc, hs⟩ := not_or.mp (List.mem_cons.not.mp hs)
    by_cases hslash : c = '\\'
    · rw [hslash, List.cons_append, piecesOnto_backslash]
      exact ih hs
    · rw [List.cons_append, piecesOnto_plain hslash fun he => absurd he.symm hc]
      exact ih hs

end FencedChat.StyleTag

namespace FencedChat.Terminal.ReadsTags

open Console StyleTag

variable {t : Terminal} {style s : String}

theorem weight_emoji (hr : t.ReadsTags) (name e : List Char) (he : t.emoji? name = some e) :
    weight e = 0 := by
  obtain ⟨hbracket, hcolon, hslash⟩ := hr.signless name e he
  apply weight_eq_zero_iff.mpr
  intro c hc
  apply signWeight_eq_zero
  · exact ne_of_mem_of_not_mem hc hbracket
  · exact ne_of_mem_of_not_mem hc hcolon
  · exact ne_of_mem_of_not_mem hc hslash

/-- A text shows itself exactly if it is verbatim. If a closing tag stands behind it, it may not end
with a backslash either, which would escape the tag. -/
theorem visible_eq_self_iff (hr : t.ReadsTags) (closed : Bool) (position : Nat) (s : List Char) :
    visible t.emoji? (piecesOnto [] 0 position (s ++ closing closed)) = s ↔
      Verbatim t s ∧ (closed = true → s.getLast? ≠ some '\\') := by
  constructor
  · intro h
    obtain ⟨hle, huntouched⟩ := weighed_start closed position s
    have hout := weight_visible hr.weight_emoji (piecesOnto [] 0 position (s ++ closing closed))
    rw [h] at hout
    rw [show readSoFar [] 0 = [] from rfl, List.nil_append] at hle huntouched
    obtain ⟨hopens, hescapes, hlast⟩ := huntouched (le_antisymm hle hout)
    have htagless : Tagless s := ⟨hopens, hescapes⟩
    have hs : showable (withEmoji t.emoji? s) = s :=
      (htagless.visible_eq hlast t.emoji? position).symm.trans h
    have hweight : weight (withEmoji t.emoji? s) = weight s := by
      rw [← weight_showable, hs]
    have hcodes := (weight_withEmoji hr.weight_emoji s).2 hweight
    refine ⟨⟨htagless, hcodes, ?_⟩, hlast⟩
    rwa [withEmoji_eq_self hcodes, showable_eq_self_iff] at hs
  · rintro ⟨h, hlast⟩
    rw [h.toTagless.visible_eq hlast, withEmoji_eq_self h.codes, showable_eq_self_iff.mpr h.visible]

/-- What is shown of a text that uses no other style than one of the commands. -/
theorem shown_of_tags (hr : t.ReadsTags) (hstyle : style ∈ commandStyles) {closing : List Char}
    (hclosing : closing ∈ [['/'], '/' :: style.toList])
    (htags : tags (pieces s.toList) <+: [style.toList, closing]) {out : String}
    (hout : visible t.emoji? (pieces s.toList) = out.toList) : t.shown s = .ok out := by
  obtain ⟨out', hok⟩ := hr.matched style hstyle closing hclosing s htags
  have hshows := hr.shows s out' hok
  rw [hout, String.toList_inj] at hshows
  rw [hok, hshows]

theorem shown_eq_self_iff (hr : t.ReadsTags) : t.shown s = .ok s ↔ Verbatim t s.toList := by
  have hself := hr.visible_eq_self_iff false 0 s.toList
  rw [closing, List.append_nil] at hself
  constructor
  · intro h
    exact (hself.mp (hr.shows s s h).symm).1
  · intro h
    have hlast : false = true → s.toList.getLast? ≠ some '\\' := fun hc => nomatch hc
    have htags := h.toTagless.tags_eq hlast 0
    rw [closing, List.append_nil] at htags
    -- without tags any style will do
    have hdim : "dim" ∈ commandStyles := by decide
    refine hr.shown_of_tags hdim List.mem_cons_self ?_ (hself.mpr ⟨h, hlast⟩)
    rw [pieces, htags]
    exact List.nil_prefix

/-- A styled text shows itself exactly if it is verbatim and ends with no backslash. -/
theorem shown_styled_iff (hr : t.ReadsTags) (hstyle : style ∈ commandStyles) :
    t.shown (styled style s) = .ok s ↔ Verbatim t s.toList ∧ s.toList.getLast? ≠ some '\\' := by
  have hself := hr.visible_eq_self_iff true (0 + style.toList.length + 2) s.toList
  have hpieces : pieces (styled style s).toList = _ :=
    toList_styled style s ▸ (isBody_of_mem hstyle).pieces_eq _
  constructor
  · intro h
    have hshows := hr.shows _ s h
    rw [hpieces, visible_tag] at hshows
    exact ⟨(hself.mp hshows.symm).1, (hself.mp hshows.symm).2 rfl⟩
  · rintro ⟨h, hlast⟩
    refine hr.shown_of_tags hstyle List.mem_cons_self ?_ ?_
    · rw [hpieces, tags_tag, h.toTagless.tags_eq (fun _ => hlast)]
      exact List.prefix_rfl
    · rw [hpieces, visible_tag]
      exact hself.mpr ⟨h, fun _ => hlast⟩

/-- The closing tag may name the style that it closes. -/
theorem shown_named (hr : t.ReadsTags) (hstyle : style ∈ commandStyles)
    (hs : s.toList.all isPlain = true) : t.shown (named style s) = .ok s := by
  have hbody := isBody_of_mem hstyle
  have h := verbatim_of_all t hs
  refine hr.shown_of_tags hstyle (List.mem_cons_of_mem _ List.mem_cons_self) ?_ ?_
  · rw [toList_named, hbody.pieces_eq, piecesOnto_append (signWeight_of_all hs), tags_tag,
      tags_piecesOnto_tag (hbody.closing.body?_eq []), piecesOnto_nil]
    exact List.prefix_rfl
  · rw [toList_named, hbody.pieces_eq, piecesOnto_append (signWeight_of_all hs), visible_tag,
      piecesOnto_tag (hbody.closing.body?_eq []), piecesOnto_nil, visible_flush, List.append_nil,
      List.reverse_reverse, unescape_eq_self h.escapes, withEmoji_eq_self h.codes,
      showable_eq_self_iff.mpr h.visible]
    exact List.append_nil s.toList

/-- A text without opening brackets can be shown in any style. A backslash at its end makes ordinary
text of the closing tag, which need not be there. -/
theorem exists_shown_named (hr : t.ReadsTags) (hstyle : style ∈ commandStyles)
    (hs : '[' ∉ s.toList) : ∃ out, t.shown (named style s) = .ok out := by
  have hbody := isBody_of_mem hstyle
  apply hr.matched style hstyle _ (List.mem_cons_of_mem _ List.mem_cons_self)
  obtain ⟨plain, slashes, position, hpieces⟩ : ∃ plain slashes position,
      piecesOnto [] 0 (0 + style.toList.length + 2)
          (s.toList ++ '[' :: ('/' :: style.toList ++ ']' :: [])) =
        piecesOnto plain slashes position ('[' :: ('/' :: style.toList ++ ']' :: [])) :=
    exists_piecesOnto_append hs _
  rw [toList_named, hbody.pieces_eq, hpieces, tags_tag,
    tags_piecesOnto_tag (hbody.closing.body?_eq []), piecesOnto_nil]
  split
  · exact ⟨[_], rfl⟩
  · exact List.prefix_rfl

/-- The same for a text between two others, one that opens the style and one that closes it. -/
theorem exists_shown_between (hr : t.ReadsTags) (hstyle : style ∈ commandStyles)
    {opening closing first last : String} (hopening : opening = "[" ++ style ++ "]" ++ first)
    (hclosing : closing = last ++ "[/" ++ style ++ "]") (hfirst : '[' ∉ first.toList)
    (hlast : '[' ∉ last.toList) (hs : '[' ∉ s.toList) :
    ∃ out, t.shown (opening ++ s ++ closing) = .ok out := by
  have htext : opening ++ s ++ closing = named style (first ++ s ++ last) := by
    simp only [hopening, hclosing, named, String.append_assoc]
  have hmid : '[' ∉ (first ++ s ++ last).toList := by simp [hfirst, hlast, hs]
  exact htext ▸ hr.exists_shown_named hstyle hmid

end FencedChat.Terminal.ReadsTags
