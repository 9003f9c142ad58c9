import FencedChat.Text.Blank
import FencedChat.Text.WordChar

/-!
Fences. An opening fence is three backticks at the start of the text or behind a blank, with the
rest of their line as tag and hint. The body runs to the next three backticks.
-/

namespace FencedChat

structure Opening where
  /-- The text before the fence. -/
  before : List Char
  /-- The word that follows the backticks. -/
  tag : List Char
  /-- The rest of the line. -/
  hint : List Char
  /-- The line without its newline, backticks included. -/
  line : List Char
  /-- The text after the line. -/
  body : List Char

namespace Fence

/-- The text up to the first newline and the text after it. -/
def line? (s : List Char) : Option (List Char × List Char) :=
  let line := s.takeWhile (· ≠ '\n')
  match s.drop line.length with
  | [] => none
  | _ :: rest => some (line, rest)

/-- The opening fence whose backticks end right before `s`. -/
def openingAt? (before s : List Char) : Option Opening :=
  match line? s with
  | none => none
  | some (line, body) =>
    let tag := line.takeWhile isWordChar
    let hint := (line.drop tag.length).dropWhile fun c => c == ' ' || c == '\t'
    some ⟨before, tag, hint, '`' :: '`' :: '`' :: line, body⟩

/-- Whether a fence may open after this character. -/
def mayFollow (prev : Option Char) : Bool := prev.all isBlank

/-- What follows the backticks of a fence that may open here. -/
def start? (prev : Option Char) : List Char → Option (List Char)
  | '`' :: '`' :: '`' :: s => if mayFollow prev then some s else none
  | _ => none

/-- The first opening fence. `passed` is the text before `s`, in reverse, as far as it belongs to
the search, and `prev` is the character before `s`. If no line ends behind a fence, none ends behind
a later one. -/
def findOpening? (prev : Option Char) (passed : List Char) : List Char → Option Opening
  | [] => none
  | c :: r =>
    match start? prev (c :: r) with
    | some s => openingAt? passed.reverse s
    | none => findOpening? (some c) (c :: passed) r

/-- The text up to the first three backticks, and the text after them. `passed` is the text before,
in reverse. -/
def splitAtMarker? (passed : List Char) : List Char → Option (List Char × List Char)
  | '`' :: '`' :: '`' :: r => some (passed.reverse, r)
  | c :: r => splitAtMarker? (c :: passed) r
  | [] => none

def withoutLastNewline (body : List Char) : List Char :=
  match body.reverse with
  | '\n' :: '\r' :: r => r.reverse
  | '\n' :: r => r.reverse
  | _ => body

theorem length_start? {prev : Option Char} {s t : List Char} (h : start? prev s = some t) :
    t.length < s.length := by
  unfold start? at h
  split at h
  · split at h
    · cases h
      simp only [List.length_cons]
      omega
    · simp at h
  · simp at h

theorem length_line? {s line rest : List Char} (h : line? s = some (line, rest)) :
    rest.length < s.length := by
  unfold line? at h
  dsimp only at h
  split at h
  · simp at h
  · rename_i hd
    simp only [Option.some.injEq, Prod.mk.injEq] at h
    have := congrArg List.length hd
    rw [h.2] at this
    simp only [List.length_drop, List.length_cons] at this
    omega

theorem length_openingAt? {before s : List Char} {o : Opening} (h : openingAt? before s = some o) :
    o.body.length < s.length := by
  unfold openingAt? at h
  split at h
  · simp at h
  · rename_i hl
    simp only [Option.some.injEq] at h
    subst h
    exact length_line? hl

theorem length_findOpening? {prev : Option Char} {passed s : List Char} {o : Opening}
    (h : findOpening? prev passed s = some o) : o.body.length < s.length := by
  induction s generalizing prev passed with
  | nil => simp [findOpening?] at h
  | cons c r ih =>
    unfold findOpening? at h
    split at h
    · rename_i hs
      have := length_start? hs
      have := length_openingAt? h
      omega
    · have := ih h
      simp only [List.length_cons]
      omega

theorem length_splitAtMarker? {passed s body rest : List Char}
    (h : splitAtMarker? passed s = some (body, rest)) : rest.length < s.length := by
  fun_induction splitAtMarker? passed s with
  | case1 passed r =>
    simp only [Option.some.injEq, Prod.mk.injEq] at h
    simp only [← h.2, List.length_cons]
    omega
  | case2 passed c r _ ih =>
    have := ih h
    simp only [List.length_cons]
    omega
  | case3 => simp at h

end Fence

end FencedChat
