import FencedChat.Console.Layout

/-!
Panels: text in a box as wide as the terminal, with a title in the upper and one in the lower
border.
-/

namespace FencedChat.Console

def titleWidth : Nat := columns - 4

/-- A border with a title in its middle. An odd place goes to the right. A title that fills the
border loses its last blanks if they stand beyond the width when characters are counted and not
cells. -/
def titledBorder (left right : Char) (title : List Char) : List Char :=
  let title := crop titleWidth (' ' :: title ++ [' '])
  let room := titleWidth - cellLength title
  left :: '─' ::
    trimBeyond titleWidth
      (List.replicate (room / 2) '─' ++ title ++ List.replicate (room - room / 2) '─')
    ++ ['─', right]

/-- A text in a box with titles that show these texts. Lines that are too long are cut off. -/
def framed (title subtitle : String) (text : List Char) : List (List Char) :=
  let body := (croppedLines titleWidth (String.ofList text)).map fun l =>
    '│' :: ' ' :: pad titleWidth l ++ [' ', '│']
  titledBorder '╭' '╮' title.toList :: body ++ [titledBorder '╰' '╯' subtitle.toList]

end FencedChat.Console
