import FencedChat.Text.Blank
import FencedChat.Text.CellWidth
import FencedChat.Text.Showable

/-!
Text on a terminal of a fixed width: tab stops, and lines that are wrapped between words or cut off.
-/

namespace FencedChat.Console

def columns : Nat := 80

/-- The text with each tab filled up to the next multiple of eight cells. The text starts at the
given column. -/
def expandTabs (column : Nat) : List Char → List Char
  | [] => []
  | '\t' :: r =>
    let gap := 8 - column % 8
    List.replicate gap ' ' ++ expandTabs (column + gap) r
  | c :: r => c :: expandTabs (column + cellWidth c) r

/-- The text cut to a width that it goes beyond. The character to cut behind is searched for by
halves between two positions, so a character without width at the cut is kept only if the search
comes out behind it. A wide character that would be cut in half leaves a space. Each round brings
the positions closer, so rounds for the length of the text are enough. -/
def cropBetween (width : Nat) (s : List Char) : Nat → Nat → Nat → List Char
  | 0, _, _ => []
  | rounds + 1, low, high =>
    let middle := (low + high) / 2
    let start := s.take (middle + 1)
    let length := cellLength start
    if length = width then start
    else if length = width + 1 ∧ (start.getLast?.map cellWidth) = some 2 then
      start.dropLast ++ [' ']
    else if width < length then cropBetween width s rounds low middle
    else cropBetween width s rounds middle high

def crop (width : Nat) (s : List Char) : List Char :=
  if cellLength s ≤ width then s
  else if width = 0 then []
  else cropBetween width s s.length 0 s.length

theorem cellLength_cropBetween (width : Nat) (s : List Char) (rounds low high : Nat) :
    cellLength (cropBetween width s rounds low high) ≤ width := by
  induction rounds generalizing low high with
  | zero => simp [cropBetween]
  | succ rounds ih =>
    simp only [cropBetween]
    split
    · omega
    · split
      · rename_i h
        obtain ⟨hlength, hwide⟩ := h
        simp only [Option.map_eq_some_iff] at hwide
        obtain ⟨c, hc, hw⟩ := hwide
        obtain ⟨front, hfront⟩ := List.getLast?_eq_some_iff.mp hc
        rw [hfront] at hlength ⊢
        simp only [cellLength_append, cellLength_cons, cellLength_nil, List.dropLast_concat]
          at hlength ⊢
        have : cellWidth ' ' = 1 := rfl
        omega
      · split
        · exact ih ..
        · exact ih ..

theorem cellLength_crop (width : Nat) (s : List Char) : cellLength (crop width s) ≤ width := by
  simp only [crop]
  split
  · assumption
  · split
    · simp
    · exact cellLength_cropBetween ..

theorem crop_of_fits {width : Nat} {s : List Char} (h : cellLength s ≤ width) :
    crop width s = s := by
  simp [crop, h]

def pad (width : Nat) (s : List Char) : List Char :=
  s ++ List.replicate (width - cellLength s) ' '

def padLeft (width : Nat) (s : List Char) : List Char :=
  List.replicate (width - cellLength s) ' ' ++ s

/-- The text without those blanks at its end that stand beyond a width. -/
def trimBeyond (width : Nat) (s : List Char) : List Char :=
  s.take (max width (trimEndChars s).length)

/-- The words of a text with the blanks behind them. The first word has the blanks before it as
well. A text of blanks has no words. -/
def words (s : List Char) : List (List Char) :=
  match s.splitBy fun a b => !isBlank a || isBlank b with
  | [] => []
  | w :: ws =>
    if w.all isBlank then
      match ws with
      | [] => []
      | v :: vs => (w ++ v) :: vs
    else w :: ws

/-- The text behind `piece`, which is held in reverse, cut into pieces that fit into a width. -/
def chopOnto (width : Nat) (piece : List Char) : List Char → List (List Char)
  | [] => [piece.reverse]
  | c :: r =>
    if width < cellLength piece + cellWidth c then piece.reverse :: chopOnto width [c] r
    else chopOnto width (c :: piece) r

/-- Lines of words that follow `line`, the line begun. A word starts a line of its own unless it
fits behind the line begun, and one that is too long for any line is cut. -/
def wrapOnto (width : Nat) (line : List Char) : List (List Char) → List (List Char)
  | [] => [line]
  | word :: rest =>
    let length := cellLength (trimEndChars word)
    if cellLength line + length ≤ width then wrapOnto width (line ++ word) rest
    else
      let pieces := if width < length then chopOnto width [] word else [word]
      (if line.isEmpty then [] else [line]) ++ pieces.dropLast
        ++ wrapOnto width (pieces.getLast?.getD []) rest

def wrap (width : Nat) (s : List Char) : List (List Char) :=
  let lines := match words s with
    | [] => [s]
    | ws => wrapOnto width [] ws
  lines.map fun l => crop width (trimBeyond width l)

/-- The lines of a text between its newlines, with tabs expanded and without unshowable
characters. -/
def plainLines (s : String) : List (List Char) :=
  (s.splitOn "\n").map fun l => expandTabs 0 (showable l.toList)

def wrappedLines (width : Nat) (s : String) : List (List Char) :=
  (plainLines s).flatMap (wrap width)

def croppedLines (width : Nat) (s : String) : List (List Char) :=
  (plainLines s).map fun l => crop width (trimBeyond width l)

def unlines (lines : List (List Char)) : String :=
  String.ofList (lines.flatMap fun l => l ++ ['\n'])

end FencedChat.Console
