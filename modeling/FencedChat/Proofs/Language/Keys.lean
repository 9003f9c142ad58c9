import FencedChat.Language.Builtin
import FencedChat.Proofs.Pattern.Runs
import FencedChat.Proofs.Text.Blank

/-!
The names of keys and of properties. A colon must follow them, which is not found inside the name,
so the greedy repetition of their characters takes the whole name.
-/

namespace FencedChat

namespace Pattern

variable {x y : CharSet}

/-- A colon behind some blanks is not found inside a run that holds neither blanks nor a colon. -/
theorem failsInside_before_colon (hxy : ∀ c, x.mem c = true → y.mem c = false)
    (hx : x.mem ':' = false) (q : Pattern) (k : Cursor → Option Cursor) :
    FailsInside x fun t => (before (all [star y, text ":", q])).run t k := by
  intro s t h
  have hcolon : s.step? (.single ':') = none := by
    apply Cursor.step?_eq_none_of_disjoint _ h
    intro c hc
    rw [CharSet.mem_single]
    by_cases he : c = ':'
    · rw [he, hx] at hc
      exact absurd hc (by decide)
    · simp [he]
  have htext : (seq (text ":") q).run s some = none := run_set_of_step?_eq_none hcolon
  have hrun : (all [star y, text ":", q]).run s some = none := by
    have hstar := run_star_of_step?_eq_none (k := fun u => (seq (text ":") q).run u some)
      (Cursor.step?_eq_none_of_disjoint hxy h)
    exact hstar.trans htext
  show (if ((all [star y, text ":", q]).run s some).isSome == true then k s else none) = none
  rw [hrun]
  rfl

end Pattern

theorem isWordChar_of_isBlank {c : Char} (h : isBlank c = true) : isWordChar c = false := by
  have hall : blankCodes.all (fun n => !isWordChar (Char.ofNat n)) = true := by decide +kernel
  have hword := List.all_eq_true.mp hall _ (toNat_mem_blankCodes h)
  rwa [Char.ofNat_toNat, Bool.not_eq_true'] at hword

namespace Language

open Pattern

/-- A key matches as a greedy repetition of its characters. -/
theorem yamlKey_match? (s : Cursor) :
    yamlKey.match? s =
      (all [notAfter (.except [.blank, .char '-', .char '\x7b', .char ',']),
        plus (.of [.word, .char '.', .char '-', .char '/']),
        before (all [star (.chars " \t"), text ":",
          group false (oneOf [set .blank, lineEnd])])]).match?
          s := by
  have hkey : FailsInside (.of [.word, .char '.', .char '-', .char '/']) fun t =>
      (before (all [star (.chars " \t"), text ":", group false (oneOf [set .blank, lineEnd])])).run
        t some := by
    apply failsInside_before_colon
    · intro c hc
      cases hy : (CharSet.chars " \t").mem c with
      | false => rfl
      | true =>
        have hblank : c = ' ' ∨ c = '\t' := by
          simpa [CharSet.chars, CharSet.of, CharSet.mem, CharSet.Item.mem] using hy
        rcases hblank with rfl | rfl
        · exact absurd hc (by decide)
        · exact absurd hc (by decide)
    · decide
  have hrun := funext fun t => (run_plus hkey t).symm
  exact congrArg
    (fun k => (notAfter (.except [.blank, .char '-', .char '\x7b', .char ','])).run s k) hrun

/-- A property matches as a greedy repetition of the characters behind its first letter. -/
theorem cssProperty_match? (s : Cursor) :
    cssProperty.match? s =
      (all [between 0 2 (.single '-'), set (.of CharSet.letters), star (nameChars []),
        before (all [star .blank, text ":", notBefore (text ":")])]).match? s := by
  have hname : FailsInside (nameChars []) fun t =>
      (before (all [star .blank, text ":", notBefore (text ":")])).run t some := by
    apply failsInside_before_colon
    · intro c hc
      cases hy : CharSet.blank.mem c with
      | false => rfl
      | true =>
        have hblank : isBlank c = true := by
          simpa [CharSet.blank, CharSet.of, CharSet.mem, CharSet.Item.mem] using hy
        have hword : isWordChar c = false := isWordChar_of_isBlank hblank
        have hdash : c = '-' := by
          simpa [nameChars, CharSet.of, CharSet.mem, CharSet.Item.mem, hword] using hc
        rw [hdash] at hblank
        exact absurd hblank (by decide)
    · decide
  have hrun := funext fun t => (run_star hname t).symm
  exact congrArg (fun k => (between 0 2 (.single '-')).run s fun t =>
    (set (.of CharSet.letters)).run t k) hrun

end Language

end FencedChat
