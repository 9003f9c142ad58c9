import FencedChat.Proofs.Message.FenceOffsets
import FencedChat.Proofs.Message.LineBoundary

/-!
A scanner over offsets. From the start of a text, and then from the end of each block, the first
fence that opens is looked for; what is written on its line and up to the next marker is the block.
The reader takes the same from the pieces of each block.
-/

namespace FencedChat

/-- What is written of a code block: the word behind its backticks, the first word of the rest of
their line, and the code. -/
structure WrittenBlock where
  tag : Option String
  name : Option String
  code : String
  deriving DecidableEq

def CodeBlock.written (b : CodeBlock) : WrittenBlock := ⟨b.tag, b.declaredName, b.code⟩

namespace Fence

/-- A body without the line end at its end. -/
def codeOf (body : List Char) : List Char :=
  if ['\r', '\n'] <:+ body then body.take (body.length - 2)
  else if ['\n'] <:+ body then body.take (body.length - 1)
  else body

/-- The block whose fence opens at `o`, whose line ends at `n` and that closes at `m`. -/
def writtenAt (s : List Char) (o n m : Nat) : WrittenBlock :=
  let line := s.extract (o + 3) n
  let tag := line.takeWhile isWordChar
  { tag := if tag = [] then none else some (String.ofList tag)
    name := (firstWord? (line.dropWhile isWordChar)).map String.ofList
    code := String.ofList (codeOf (s.extract (n + 1) m)) }

/-- From one offset to another the scanner finds these blocks. Behind a block it goes on. -/
inductive Finds (s : List Char) : Nat → List WrittenBlock → Nat → Prop
  | nothing {p : Nat} : Finds s p [] p
  | block {p o n m q : Nat} {ws : List WrittenBlock} (h : BlockAt s p o n m)
      (hrest : Finds s (m + 3) ws q) : Finds s p (writtenAt s o n m :: ws) q

/-- The blocks that the scanner finds from the start of a text until there is no further one. -/
def Scans (s : List Char) (ws : List WrittenBlock) : Prop :=
  ∃ q, Finds s 0 ws q ∧ ∀ o n m, ¬ BlockAt s q o n m

/-- The first fence from `p` on opens at `o`, and no marker follows its line. -/
structure OpenAt (s : List Char) (p o : Nat) : Prop where
  opening : FirstFrom (OpensAt s) p o
  unclosed : ∀ n m, FirstFrom (NewlineAt s) (o + 3) n → n < m → ¬ MarkerAt s m

/-- The scanner always comes to an end. -/
theorem exists_finds (s : List Char) (p : Nat) :
    ∃ ws q, Finds s p ws q ∧ ∀ o n m, ¬ BlockAt s q o n m := by
  by_cases h : ∃ o n m, BlockAt s p o n m
  · obtain ⟨o, n, m, h⟩ := h
    have hlt := h.lt
    have hle := h.le_length
    obtain ⟨ws, q, hrest, hend⟩ := exists_finds s (m + 3)
    exact ⟨_, q, .block h hrest, hend⟩
  · simp only [not_exists] at h
    exact ⟨[], p, .nothing, h⟩
termination_by s.length - p

variable {a b s body rest : List Char} {prev : Option Char} {o : Opening}

theorem withoutLastNewline_eq_codeOf (body : List Char) :
    withoutLastNewline body = codeOf body := by
  unfold withoutLastNewline codeOf
  split
  · rename_i r hr
    obtain rfl := List.reverse_eq_iff.mp hr
    simp
  · rename_i r hcr hr
    obtain rfl := List.reverse_eq_iff.mp hr
    have hend : ¬ ['\r', '\n'] <:+ ('\n' :: r).reverse := by
      rw [← List.reverse_prefix, List.reverse_reverse]
      rintro ⟨t, ht⟩
      exact hcr t (List.cons.inj ht).2.symm
    rw [if_neg hend]
    simp
  · rename_i hcrlf hlf
    have hend : ¬ ['\n'] <:+ body := by
      rw [← List.reverse_prefix]
      rintro ⟨t, ht⟩
      exact hlf t ht.symm
    have hend' : ¬ ['\r', '\n'] <:+ body := fun h => hend ((List.suffix_cons '\r' ['\n']).trans h)
    rw [if_neg hend', if_neg hend]

/-- Blanks and tabs before the first word do not matter to it. -/
theorem firstWord?_dropWhile (s : List Char) :
    firstWord? (s.dropWhile fun c => c == ' ' || c == '\t') = firstWord? s := by
  have hdrop :
      (s.dropWhile fun c => c == ' ' || c == '\t').dropWhile isBlank = s.dropWhile isBlank := by
    induction s with
    | nil => rfl
    | cons c s ih =>
      rw [List.dropWhile_cons]
      split
      · rename_i hc
        have hblank : isBlank c = true := by
          rcases Bool.or_eq_true_iff.mp hc with h | h
          · rw [eq_of_beq h]
            rfl
          · rw [eq_of_beq h]
            rfl
        rw [ih, List.dropWhile_cons_of_pos hblank]
      · rfl
  rw [firstWord?, hdrop, firstWord?]

theorem extract_eq {x l y : List Char} {i j : Nat} (h : s = x ++ (l ++ y)) (hi : i = x.length)
    (hj : j = i + l.length) : s.extract i j = l := by
  subst h hi hj
  simp

/-- The reader takes from a block what is written between its offsets. -/
theorem written_block (r : MessageReader) (ho : findOpening? prev [] b = some o)
    (hb : splitAtMarker? [] o.body = some (body, rest)) (a : List Char) :
    (r.block o body).written =
      writtenAt (a ++ b) (a.length + o.before.length) (a.length + o.before.length + o.line.length)
        (a.length + o.before.length + o.line.length + 1 + body.length) := by
  obtain ⟨l, hl, -, htag, hpieces⟩ := append_eq_line ho a
  have hbody := (eq_of_splitAtMarker? hb).1
  have hline : (a ++ b).extract (a.length + o.before.length + 3)
      (a.length + o.before.length + o.line.length) = l := by
    apply extract_eq hpieces
    · simp only [List.length_append]
      rfl
    · rw [hl, List.length_append, Nat.add_assoc _ 3]
      rfl
  have hcode : (a ++ b).extract (a.length + o.before.length + o.line.length + 1)
      (a.length + o.before.length + o.line.length + 1 + body.length) = body := by
    apply extract_eq (x := a ++ o.before ++ o.line ++ ['\n']) (y := marker ++ rest)
    · rw [append_eq_body ho a, hbody]
    · rw [length_body_start]
    · rfl
  have hname : firstWord? o.hint = firstWord? (l.dropWhile isWordChar) := by
    have hdrop : o.line.drop 3 = l := congrArg (List.drop 3) hl
    rw [hint_findOpening? ho, firstWord?_dropWhile, hdrop, htag, drop_length_takeWhile]
  simp only [CodeBlock.written, MessageReader.block, writtenAt, hline, hcode, hname, htag,
    withoutLastNewline_eq_codeOf, List.isEmpty_iff]

def blockText (o : Opening) (body : List Char) : List Char :=
  o.before ++ o.line ++ ['\n'] ++ (body ++ marker)

theorem eq_blockText_append (ho : findOpening? prev [] b = some o)
    (hb : splitAtMarker? [] o.body = some (body, rest)) : b = blockText o body ++ rest := by
  have hpieces := eq_of_findOpening? ho
  rwa [(eq_of_splitAtMarker? hb).1, ← List.append_assoc body,
    ← List.append_assoc _ (body ++ marker)]
    at hpieces

theorem length_append_blockText (a : List Char) (o : Opening) (body : List Char) :
    (a ++ blockText o body).length =
      a.length + o.before.length + o.line.length + 1 + body.length + 3 := by
  simp only [blockText, List.length_append, List.length_singleton, ← Nat.add_assoc]
  rfl

theorem getLast?_append_blockText (a : List Char) (o : Opening) (body : List Char) :
    (a ++ blockText o body).getLast? = some '`' := by
  have hlast : a ++ blockText o body =
      (a ++ o.before ++ o.line ++ ['\n'] ++ body ++ ['`', '`']) ++ ['`'] := by
    simp [blockText, marker]
  rw [hlast, List.getLast?_concat]

/-- Which fence is found does not depend on the text behind its line. -/
theorem findOpening?_withBody (h : findOpening? prev [] s = some o) (t : List Char) :
    findOpening? prev [] (o.before ++ o.line ++ ['\n'] ++ t) = some { o with body := t } := by
  have hends : EndsLine (o.before ++ o.line ++ ['\n']) := by simp [EndsLine]
  rw [eq_of_findOpening? h, findOpening?_append hends] at h
  rw [findOpening?_append hends]
  cases hline : findOpening? prev [] (o.before ++ o.line ++ ['\n']) with
  | none =>
    -- a fence that is first found behind its own line would have its line in the text before it
    rw [hline] at h
    obtain ⟨b, -, hbefore, -⟩ := findOpening?_eq_some h
    have hlength := congrArg List.length hbefore
    simp at hlength
  | some o' =>
    rw [hline] at h
    have ho : { o' with body := o'.body ++ o.body } = o := Option.some.inj h
    have hbody : o'.body = [] := by simpa using congrArg Opening.body ho
    have hwith := congrArg (fun x : Opening => { x with body := t }) ho
    simp only [hbody, List.nil_append]
    exact congrArg some hwith

/-- No fence opens in the text before the first one. -/
theorem findOpening?_before (h : findOpening? prev [] s = some o) :
    findOpening? prev [] o.before = none := by
  cases ho : findOpening? prev [] o.before with
  | none => rfl
  | some o' =>
    have hbefore := eq_of_findOpening? ho
    have hs := eq_of_findOpening? h
    rw [List.append_assoc, List.append_assoc] at hs
    -- the fence would be the first one of the whole text too, and stand before itself
    have hfirst := findOpening?_withBody ho (o'.body ++ (o.line ++ (['\n'] ++ o.body)))
    rw [← List.append_assoc, ← hbefore, ← hs, h] at hfirst
    have hsame : o.before = o'.before := by rw [Option.some.inj hfirst]
    have hlength := congrArg List.length hbefore
    rw [hsame] at hlength
    simp only [List.length_append, List.length_singleton] at hlength
    omega

/-- A fence that the reader does not see closed stays open. -/
theorem openAt_of_findOpening? (ho : findOpening? a.getLast? [] b = some o)
    (hb : splitAtMarker? [] o.body = none) :
    OpenAt (a ++ b) a.length (a.length + o.before.length) where
  opening := firstFrom_opensAt ho
  unclosed n m hn hlt := by
    obtain rfl := hn.unique (firstFrom_newlineAt_of_findOpening? ho a)
    exact not_markerAt_of_open ho hb hlt

/-- Where a fence stays open the reader finds it, and no marker behind its line. -/
theorem OpenAt.exists_pieces {p : Nat} (h : OpenAt (a ++ b) a.length p) :
    ∃ o, findOpening? a.getLast? [] b = some o ∧ splitAtMarker? [] o.body = none ∧
      p = a.length + o.before.length := by
  obtain ⟨o, ho, rfl⟩ := exists_findOpening? h.opening
  refine ⟨o, ho, ?_, rfl⟩
  cases hb : splitAtMarker? [] o.body with
  | none => rfl
  | some split =>
    have hblock := blockAt_of_findOpening? ho hb
    have hlt := hblock.closing.le
    exact absurd hblock.closing.holds (h.unclosed _ _ hblock.newline hlt)

end Fence

end FencedChat
