import FencedChat.Console.Layout

/-!
Tables: rows of cells under a header, in columns that are as wide as their longest cell. A table
that is too wide for the terminal loses width in its widest columns.
-/

namespace FencedChat.Console

structure TableColumn where
  title : String
  /-- The width of the cells, if it does not follow from them. -/
  width : Option Nat := none
  alignRight : Bool := false

structure Table where
  columns : List TableColumn
  /-- The cells of each row. They may hold style tags. -/
  rows : List (List String)

namespace Table

/-- What the borders and the spaces beside the cells leave for the cells of a table of so many
columns. -/
def cellRoom (n : Nat) : Nat := Console.columns - (3 * n + 1)

def longest (rows : List (List (List Char))) (i : Nat) (c : TableColumn) : Nat :=
  (rows.map fun row => cellLength (row[i]?.getD [])).foldl max (cellLength c.title.toList)

def widths (columns : List TableColumn) (rows : List (List (List Char))) : List Nat :=
  let alone := cellRoom columns.length + 2 * (columns.length - 1)
  columns.mapIdx fun i c => c.width.getD (min alone (longest rows i c))

def Fits (columns : List TableColumn) (rows : List (List (List Char))) : Prop :=
  (columns.mapIdx fun i c => c.width.getD (longest rows i c)).foldl (· + ·) 0 ≤
    cellRoom columns.length

/-- A quotient to the nearest whole number. A half goes to the even neighbour. -/
def divNearest (a b : Nat) : Nat :=
  let q := a / b
  let r := a % b
  if 2 * r < b then q else if b < 2 * r then q + 1 else q + q % 2

/-- The rounded quotient is within half a unit of the exact one. -/
theorem divNearest_close (a b : Nat) (h : 0 < b) :
    2 * (divNearest a b * b) ≤ 2 * a + b ∧ 2 * a ≤ 2 * (divNearest a b * b) + b := by
  have hq := Nat.div_add_mod' a b
  have hr := Nat.mod_lt a h
  have hstep : (a / b + 1) * b = a / b * b + b := Nat.succ_mul (a / b) b
  simp only [divNearest]
  split
  · omega
  split
  · omega
  · rcases Nat.mod_two_eq_zero_or_one (a / b) with h2 | h2
    · simp only [h2, Nat.add_zero]; omega
    · simp only [h2]; omega

/-- Takes `excess` away from the `count` marked widths in equal shares of at most `limit`. -/
def takeShares (limit excess count : Nat) : List (Nat × Bool) → List (Nat × Bool)
  | [] => []
  | (w, false) :: r => (w, false) :: takeShares limit excess count r
  | (w, true) :: r =>
    let share := min limit (divNearest excess count)
    (w - share, false) :: takeShares limit (excess - share) (count - 1) r

/-- Widths whose widest elastic columns are made as narrow as the next ones, but not narrower than
it takes to fit into a room. Elastic columns are marked. -/
def narrowOnce (room : Nat) (ws : List (Nat × Bool)) : List (Nat × Bool) :=
  let excess := (ws.map (·.1)).foldl (· + ·) 0 - room
  let elastic := (ws.filter (·.2)).map (·.1)
  let widest := elastic.foldl max 0
  let next := (elastic.filter (· ≠ widest)).foldl max 0
  let shared := takeShares (widest - next) excess (elastic.count widest)
    (ws.map fun (w, e) => (w, e && w == widest))
  (shared.zip ws).map fun ((w, _), (_, e)) => (w, e)

/-- Widths that fit into a room if the elastic columns allow it. A round fits the widths or makes
one more column as narrow as the next, so that a round for each column is enough. -/
def narrow (room : Nat) (ws : List (Nat × Bool)) : List Nat :=
  (Nat.repeat (narrowOnce room) ws.length ws).map (·.1)

/-- The text of a cell that is too wide ends in a sign for what is missing. -/
def shorten (width : Nat) (s : List Char) : List Char :=
  if cellLength s ≤ width then s else crop (width - 1) s ++ ['…']

def cell (c : TableColumn) (width : Nat) (s : List Char) : List Char :=
  let s := shorten width s
  ' ' :: (if c.alignRight then padLeft width s else pad width s) ++ [' ']

def cells (columns : List TableColumn) (widths : List Nat) (row : List (List Char)) :
    List (List Char) :=
  (columns.zip (widths.zip row)).map fun (c, w, s) => cell c w s

def line (left middle right : Char) (parts : List (List Char)) : List Char :=
  left :: (List.intersperse [middle] parts).flatten ++ [right]

def rule (left dash middle right : Char) (widths : List Nat) : List Char :=
  line left middle right (widths.map fun w => List.replicate (w + 2) dash)

def laidOut (columns : List TableColumn) (rows : List (List (List Char))) : List (List Char) :=
  let ws := narrow (cellRoom columns.length)
    ((widths columns rows).zip (columns.map (·.width.isNone)))
  [rule '┏' '━' '┳' '┓' ws,
      line '┃' '┃' '┃' (cells columns ws (columns.map (·.title.toList))),
      rule '┡' '━' '╇' '┩' ws]
    ++ rows.map (fun row => line '│' '│' '│' (cells columns ws row))
    ++ [rule '└' '─' '┴' '┘' ws]

end Table

end FencedChat.Console
