import FencedChat.Proofs.Language.SlashComments
import FencedChat.Proofs.Pattern.Readings

/-!
Where numbers end. Behind the digits of a number all the letters that follow are taken, and nothing
else. So a number never starts inside a word, but it ends inside one if the word behind its digits
is not made of letters alone.
-/

namespace FencedChat

namespace Language

open Pattern

namespace Number

open Reading

def isHexDigit (c : Char) : Bool :=
  c.isDigit || decide ('a' ≤ c) && decide (c ≤ 'f') || decide ('A' ≤ c) && decide (c ≤ 'F')

/-- A zero, a letter for the base and digits of that base, with underscores between them. -/
def based (mark digit : Char → Bool) : Reading :=
  andThen (one (· == '0')) (andThen (one mark) (oneOrMore fun c => digit c || c == '_'))

/-- Decimal digits with underscores between them. -/
def digits : Reading := andThen (one isDecimal) (run fun c => isDecimal c || c == '_')

def fraction : Reading := andThen (one (· == '.')) digits

def power : Reading :=
  andThen (one fun c => c == 'e' || c == 'E')
    (andThen (maybe (one fun c => c == '+' || c == '-')) (oneOrMore isDecimal))

def decimal : Reading := andThen (orElse (andThen digits (maybe fraction)) fraction) (maybe power)

/-- A number without the letters behind it: an integer of base sixteen, two or eight, or a decimal
fraction. -/
def body : Reading :=
  orElse (based (fun c => c == 'x' || c == 'X') isHexDigit)
    (orElse (based (fun c => c == 'b' || c == 'B') fun c => c == '0' || c == '1')
      (orElse (based (fun c => c == 'o' || c == 'O') fun c => decide ('0' ≤ c) && decide (c ≤ '7'))
        decimal))

end Number

open Number

theorem reads_based {marks digits : CharSet} {mark digit : Char → Bool}
    (hm : ∀ c, marks.mem c = mark c) (hd : ∀ c, digits.mem c = (digit c || c == '_')) :
    Reads (all [text "0", set marks, plus digits]) (based mark digit) :=
  .set_seq (CharSet.mem_single '0') (.set_seq hm (.plus hd))

theorem isAlpha_eq_true_iff {c : Char} : c.isAlpha = true ↔
    'A' ≤ c ∧ c ≤ 'Z' ∨ 'a' ≤ c ∧ c ≤ 'z' := by
  have hletter : c.isAlpha = (decide ('A' ≤ c ∧ c ≤ 'Z') ||
      decide ('a' ≤ c) && decide (c ≤ 'z')) := rfl
  simp [hletter]

theorem mem_letters (c : Char) : (CharSet.of CharSet.letters).mem c = c.isAlpha := by
  rw [Bool.eq_iff_iff, isAlpha_eq_true_iff]
  simp [CharSet.letters, CharSet.of, CharSet.mem, CharSet.Item.mem, or_comm]

theorem reads_spacedDigits : Reads spacedDigits digits := by
  apply Reads.set_seq
  · intro c
    simp [CharSet.digit, CharSet.of, CharSet.mem, CharSet.Item.mem]
  · apply Reads.star
    intro c
    simp [CharSet.of, CharSet.mem, CharSet.Item.mem]

theorem reads_fraction : Reads (all [text ".", spacedDigits]) Number.fraction :=
  .set_seq (CharSet.mem_single '.') reads_spacedDigits

theorem reads_exponent : Reads exponent power := by
  apply Reads.group
  apply Reads.set_seq
  · intro c
    simp [CharSet.chars, CharSet.of, CharSet.mem, CharSet.Item.mem]
  · apply Reads.optional_seq
    · intro c
      simp [CharSet.chars, CharSet.of, CharSet.mem, CharSet.Item.mem]
    · apply Reads.plus
      intro c
      simp [CharSet.digit, CharSet.of, CharSet.mem, CharSet.Item.mem]
    · -- no digit is a sign
      intro c w hc
      have hdigit : isDecimal c = false := by
        rcases Bool.or_eq_true_iff.mp hc with h | h
        · rw [eq_of_beq h]
          rfl
        · rw [eq_of_beq h]
          rfl
      simp [Reading.oneOrMore, Reading.andThen, Reading.one, hdigit]

theorem reads_decimal :
    Reads (all [group false (oneOf
      [all [spacedDigits, optional (group false (all [text ".", spacedDigits]))],
       all [text ".", spacedDigits]]), optional exponent]) decimal := by
  have hfraction := Reads.optional (Reads.group reads_fraction false)
  have hdigits := reads_spacedDigits.seq_of_total hfraction (Reading.maybe_ne_none Number.fraction)
  exact (Reads.group (.alt hdigits reads_fraction) false).seq_of_total (.optional reads_exponent)
    (Reading.maybe_ne_none power)

/-- The letters behind the digits belong to the number. -/
theorem reads_number :
    ∃ p, number = seq (notAfter (.of [.word, .char '.'])) p ∧
      Reads p (.andThen body (.run Char.isAlpha)) := by
  refine ⟨_, rfl, ?_⟩
  refine Reads.seq_of_total (.group (.alt (reads_based ?_ ?_) (.alt (reads_based ?_ ?_)
    (.alt (reads_based ?_ ?_) reads_decimal))) false) (.star mem_letters) (by simp [Reading.run])
  all_goals
    intro c
    simp [CharSet.hexDigits, CharSet.chars, CharSet.of, CharSet.mem, CharSet.Item.mem, isHexDigit,
      Char.isDigit, Char.le_def, Bool.or_assoc]

/-- A number does not start behind a word character, and takes its digits and the letters behind
them. -/
theorem number_match? {s t : Cursor} (h : number.match? s = some t) :
    (∀ c ∈ s.prev, isWordChar c = false) ∧ ∃ digits, body s.rest = some digits ∧
      s.textTo t = digits ++ (s.rest.drop digits.length).takeWhile Char.isAlpha := by
  obtain ⟨p, hnumber, hp⟩ := reads_number
  have hrun : number.match? s =
      if s.prevIn (.of [.word, .char '.']) == false then p.match? s else none := by
    rw [hnumber]
    rfl
  rw [hrun, Option.ite_none_right_eq_some] at h
  obtain ⟨hprev, hmatch⟩ := h
  constructor
  · intro c hc
    have hset : (CharSet.of [.word, .char '.']).mem c = false := by
      have hany := eq_of_beq hprev
      rw [Cursor.prevIn, Option.mem_def.mp hc] at hany
      exact hany
    have hneither : isWordChar c = false ∧ c ≠ '.' := by
      simpa [CharSet.of, CharSet.mem, CharSet.Item.mem] using hset
    exact hneither.1
  · obtain ⟨digits, letters, hd, hl, htext⟩ := Reading.andThen_eq_some.mp (hp.textTo hmatch)
    obtain rfl := Option.some.inj hl
    exact ⟨digits, hd, htext.symm⟩

theorem isWordChar_of_isAlpha {c : Char} (h : c.isAlpha = true) : isWordChar c = true := by
  have hcode : c.toNat < 0x80 := by
    rcases isAlpha_eq_true_iff.mp h with ⟨-, hZ⟩ | ⟨-, hz⟩
    · exact Nat.lt_of_le_of_lt hZ (by decide)
    · exact Nat.lt_of_le_of_lt hz (by decide)
  rw [isWordChar, if_pos hcode, Char.isAlphanum, h]
  rfl

/-- No character of a wider kind follows a run exactly if the run of the wider kind is the same. -/
theorem forall_head?_dropWhile {p q : Char → Bool} (h : ∀ c, p c = true → q c = true)
    (s : List Char) :
    (∀ c ∈ (s.dropWhile p).head?, q c = false) ↔ ∀ c ∈ s.takeWhile q, p c = true := by
  induction s with
  | nil => simp
  | cons c s ih =>
    by_cases hp : p c = true
    · rw [List.dropWhile_cons_of_pos hp, List.takeWhile_cons_of_pos (h c hp),
        List.forall_mem_cons, ih]
      exact ⟨fun hs => ⟨hp, hs⟩, fun hs => hs.2⟩
    · rw [List.dropWhile_cons_of_neg hp]
      by_cases hq : q c = true
      · rw [List.takeWhile_cons_of_pos hq, List.forall_mem_cons]
        simp [hp, hq]
      · rw [List.takeWhile_cons_of_neg hq]
        simpa using hq

/-- A text that is cut behind a run of its rest. -/
theorem eq_dropWhile_of_eq_append {p : Char → Bool} {s w u d : List Char} (hs : s = w ++ u)
    (hw : w = d ++ (s.drop d.length).takeWhile p) :
    s = d ++ s.drop d.length ∧ u = (s.drop d.length).dropWhile p := by
  have hcut : s = d ++ ((s.drop d.length).takeWhile p ++ u) := by
    rw [← List.append_assoc, ← hw, ← hs]
  have hdrop : s.drop d.length = (s.drop d.length).takeWhile p ++ u := by
    have hlength := congrArg (List.drop d.length) hcut
    rwa [List.drop_left] at hlength
  constructor
  · rwa [← hdrop] at hcut
  · exact List.append_cancel_left (hdrop.symm.trans List.takeWhile_append_dropWhile.symm)

/-- The grammars that read numbers in this way. -/
def numberGrammars : List Grammar := python :: cFamily

theorem pattern_of_number : ∀ g ∈ numberGrammars, ∀ r ∈ g.rules, r.category = .number →
    r.pattern = number := by
  simp only [numberGrammars, cFamily, List.forall_mem_cons, List.not_mem_nil, false_imp_iff,
    implies_true, and_true]
  refine ⟨?python, ?c, ?cpp, ?java, ?csharp, ?go, ?rust, ?javascript, ?typescript⟩
  all_goals
    apply Grammar.forall_mem_ofRules
    decide +kernel

theorem mem_builtin_of_mem_numberGrammars : ∀ g ∈ numberGrammars, g ∈ builtin := by
  simp [numberGrammars, cFamily, builtin]

/-- No word character stands next to what lies between these spans. -/
structure Untouched (before after : List Span) : Prop where
  start : ∀ c ∈ (Span.textOf before).getLast?, isWordChar c = false
  stop : ∀ c ∈ (Span.textOf after).head?, isWordChar c = false

/-- A number span never starts inside a word. It holds the digits that are read off the text where
it starts and all the letters behind them. It does not end inside a word exactly if the word behind
its digits holds letters only. -/
theorem number_untouched_iff {g : Grammar} (hg : g ∈ numberGrammars) {code : String}
    {before after : List Span} {x : Span} (h : g.tokens code = before ++ x :: after)
    (hx : x.category = .number) :
    (∀ c ∈ (Span.textOf before).getLast?, isWordChar c = false) ∧
    ∃ digits behind, body (x.text.toList ++ Span.textOf after) = some digits ∧
      x.text.toList ++ Span.textOf after = digits ++ behind ∧
      x.text.toList = digits ++ behind.takeWhile Char.isAlpha ∧
      (Untouched before after ↔ ∀ c ∈ behind.takeWhile isWordChar, c.isAlpha = true) := by
  have hw := Grammar.walks_tokens (mem_builtin_of_mem_numberGrammars g hg) code
  obtain ⟨r, s, t, hs, ht, hspan⟩ := hw.exists_takes h (by simp [hx])
  have hmatch := ht.isMatch
  rw [pattern_of_number g hg r ht.mem (by simpa [hspan] using hx)] at hmatch
  obtain ⟨hprev, digits, hdigits, htext⟩ := number_match? hmatch
  have hx' : x.text.toList = s.textTo t := by rw [hspan, String.toList_ofList]
  have hrest := g.rest_eq h hs
  have hbefore : ∀ c ∈ (Span.textOf before).getLast?, isWordChar c = false := by
    intro c hc
    apply hprev
    rw [hs.prev, Option.mem_def.mp hc]
    rfl
  rw [← hx'] at htext
  obtain ⟨hbody, hafter⟩ := eq_dropWhile_of_eq_append hrest htext
  rw [← hrest]
  refine ⟨hbefore, digits, s.rest.drop digits.length, hdigits, hbody, htext, ?_⟩
  rw [← forall_head?_dropWhile (fun _ => isWordChar_of_isAlpha), ← hafter]
  exact ⟨fun hu => hu.stop, fun hstop => ⟨hbefore, hstop⟩⟩

theorem tokens_typed_number :
    rust.tokens "1u8" = [] ++ ⟨.number, "1u"⟩ :: [⟨.plain, "8"⟩] := by decide +kernel

/-- The type of a number is part of a word that does not hold letters only. -/
theorem number_untouched_iff_rust : rust ∈ numberGrammars ∧
    rust.tokens "1u8" = [] ++ ⟨.number, "1u"⟩ :: [⟨.plain, "8"⟩] ∧
    ¬ Untouched [] [⟨.plain, "8"⟩] := by
  have hrust : rust ∈ numberGrammars := by simp [numberGrammars, cFamily]
  refine ⟨hrust, tokens_typed_number, ?_⟩
  obtain ⟨-, digits, behind, hdigits, hbehind, -, hiff⟩ :=
    number_untouched_iff hrust tokens_typed_number rfl
  have hone : body "1u8".toList = some ['1'] := by decide +kernel
  obtain rfl : ['1'] = digits := Option.some.inj (hone.symm.trans hdigits)
  obtain rfl : ['u', '8'] = behind := (List.cons.inj hbehind).2
  rw [hiff]
  intro hletters
  have hrun : '8' ∈ ['u', '8'].takeWhile isWordChar := by
    rw [List.takeWhile_cons_of_pos (by decide +kernel),
      List.takeWhile_cons_of_pos (by decide +kernel)]
    simp
  exact absurd (hletters '8' hrun) (by decide +kernel)

/-- Some numbers end inside a word. -/
theorem not_untouched_rust :
    ¬ ∀ g ∈ numberGrammars, ∀ (code : String) (before after : List Span) (x : Span),
      g.tokens code = before ++ x :: after → x.category = .number → Untouched before after := by
  intro h
  have hrust : rust ∈ numberGrammars := by simp [numberGrammars, cFamily]
  have huntouched := h rust hrust "1u8" [] _ _ tokens_typed_number rfl
  exact absurd (huntouched.stop '8' rfl) (by decide +kernel)

end Language

end FencedChat
