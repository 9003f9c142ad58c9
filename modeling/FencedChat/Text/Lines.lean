/-!
Line ends: reading text of any newline convention, and cutting text into lines.
-/

namespace FencedChat

/-- Writes the text behind `done`, which is held in reverse, with each carriage return, alone or
before a newline, as one newline. -/
def plainNewlinesOnto (done : List Char) : List Char → List Char
  | [] => done.reverse
  | '\r' :: '\n' :: r => plainNewlinesOnto ('\n' :: done) r
  | '\r' :: r => plainNewlinesOnto ('\n' :: done) r
  | c :: r => plainNewlinesOnto (c :: done) r

def plainNewlines (s : String) : String := String.ofList (plainNewlinesOnto [] s.toList)

def isLineEnd (c : Char) : Bool :=
  let n := c.toNat
  (decide (0x0A ≤ n) && decide (n ≤ 0x0D)) || (decide (0x1C ≤ n) && decide (n ≤ 0x1E))
    || n == 0x85 || n == 0x2028 || n == 0x2029

/-- The lines of a text behind `line`, the current line in reverse. A line end at the end of the
text starts no further line. -/
def splitLinesOnto (line : List Char) : List Char → List (List Char)
  | [] => if line.isEmpty then [] else [line.reverse]
  | '\r' :: '\n' :: r => line.reverse :: splitLinesOnto [] r
  | c :: r =>
    if isLineEnd c then line.reverse :: splitLinesOnto [] r else splitLinesOnto (c :: line) r

def splitLines (s : List Char) : List (List Char) := splitLinesOnto [] s

end FencedChat
