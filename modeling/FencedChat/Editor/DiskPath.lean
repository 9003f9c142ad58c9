/-!
Paths of files. A path is shown without repeated separators, without dots that stand for nothing,
and without a separator at its end.
-/

namespace FencedChat

/-- A path: the separators that it starts with, and its parts. -/
structure DiskPath where
  root : String
  parts : List String
  deriving DecidableEq, Repr

namespace DiskPath

/-- The path that a text writes. Exactly two separators at the start are kept. -/
def ofText (s : String) : DiskPath :=
  let lead := s.toList.takeWhile (· == '/')
  ⟨match lead.length with
    | 0 => ""
    | 2 => "//"
    | _ => "/",
    (s.splitOn "/").filter fun part => part ≠ "" && part ≠ "."⟩

def text (p : DiskPath) : String :=
  if p.root = "" && p.parts.isEmpty then "." else p.root ++ "/".intercalate p.parts

def name (p : DiskPath) : String := p.parts.getLast?.getD ""

/-- What follows the last dot of the name, if a name stands before that dot and something follows
it. -/
def extension (p : DiskPath) : String :=
  let cs := p.name.toList
  let tail := (cs.reverse.takeWhile (· ≠ '.')).reverse
  let stem := cs.take (cs.length - tail.length - 1)
  if tail.length = cs.length || tail.isEmpty || stem.isEmpty then "" else String.ofList tail

end DiskPath

end FencedChat
