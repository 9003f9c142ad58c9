import FencedChat.Message.Segment

/-!
Prose: the text of a message outside its code blocks, as lines of text and inline code.
-/

namespace FencedChat.Prose

/-- A text segment, unless there is no text. The text is given in reverse. -/
def textSegment (line : List Char) : List Segment :=
  if line.isEmpty then [] else [.text (String.ofList line.reverse)]

/-- The lines of a text with breaks between them. `line` is the text of the current line so far, in
reverse. A newline may follow a carriage return. -/
def linesOnto (line : List Char) : List Char → List Segment
  | [] => textSegment line
  | '\n' :: r => textSegment line ++ .lineBreak :: linesOnto [] r
  | '\r' :: '\n' :: r => textSegment line ++ .lineBreak :: linesOnto [] r
  | c :: r => linesOnto (c :: line) r

def lines (s : List Char) : List Segment := linesOnto [] s

/-- The inline code after a single opening backtick, and the text after its closing backtick. Inline
code is not empty, stays on its line, and no second backtick touches its ends. -/
def inlineCode? (s : List Char) : Option (List Char × List Char) :=
  let code := s.takeWhile fun c => c != '`' && c != '\n'
  if code.isEmpty then none
  else match s.drop code.length with
    | '`' :: '`' :: _ => none
    | '`' :: rest => some (code, rest)
    | _ => none

theorem length_inlineCode? {s code rest : List Char} (h : inlineCode? s = some (code, rest)) :
    rest.length < s.length := by
  unfold inlineCode? at h
  dsimp only at h
  split at h
  · simp at h
  · split at h
    · simp at h
    · rename_i hd
      simp only [Option.some.injEq, Prod.mk.injEq] at h
      have := congrArg List.length hd
      rw [h.2] at this
      simp only [List.length_drop, List.length_cons] at this
      omega
    · simp at h

/-- Text and inline code. `passed` is the text since the last inline code, in reverse, and `prev`
the character before `s`. -/
def segmentsOnto (prev : Option Char) (passed : List Char) (s : List Char) : List Segment :=
  match s with
  | [] => lines passed.reverse
  | c :: r =>
    if c = '`' ∧ prev ≠ some '`' then
      match _h : inlineCode? r with
      | some (code, rest) =>
        lines passed.reverse ++ .inlineCode (String.ofList code) :: segmentsOnto (some '`') [] rest
      | none => segmentsOnto (some c) (c :: passed) r
    else segmentsOnto (some c) (c :: passed) r
termination_by s.length
decreasing_by
  all_goals simp only [List.length_cons]
  · exact Nat.lt_succ_of_lt (length_inlineCode? (by assumption))
  all_goals omega

def segments (s : List Char) : List Segment := segmentsOnto none [] s

end FencedChat.Prose
