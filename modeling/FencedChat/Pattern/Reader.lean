import FencedChat.Pattern.Basic

/-!
Reading patterns from their usual notation: literals, sets, classes, groups, anchors, looks in both
directions, and quantifiers. What is repeated without bound, or more than once, is a single run of
sets, and what is looked behind at is one set.
-/

namespace FencedChat.Pattern

def classSet? : Char → Option CharSet
  | 'w' => some (.of [.word])
  | 'd' => some (.of [.digit])
  | 's' => some (.of [.blank])
  | 'W' => some (.except [.word])
  | 'D' => some (.except [.digit])
  | 'S' => some (.except [.blank])
  | _ => none

/-- The character that a backslash and a character stand for, where that is one character. -/
def escapedChar? : Char → Option Char
  | 'n' => some '\n'
  | 't' => some '\t'
  | 'r' => some '\r'
  | 'f' => some '\x0c'
  | 'v' => some '\x0b'
  | c => if c.isAlphanum then none else some c

/-- One member of a set in brackets: a class, or a character that may start a range. -/
def member? : List Char → Option (CharSet.Item × List Char)
  | '\\' :: 'w' :: r => some (.word, r)
  | '\\' :: 'd' :: r => some (.digit, r)
  | '\\' :: 's' :: r => some (.blank, r)
  | '\\' :: c :: r => (escapedChar? c).map fun d => (.char d, r)
  | c :: r => some (.char c, r)
  | [] => none

/-- The members up to the closing bracket, behind those already read. A bracket that comes first is
a member. -/
def members? (read : List CharSet.Item) : Nat → List Char → Option (List CharSet.Item × List Char)
  | 0, _ => none
  | n + 1, s =>
    match s, read with
    | ']' :: r, _ :: _ => some (read.reverse, r)
    | s, _ =>
      match member? s with
      | none => none
      | some (.char a, '-' :: r) =>
        match r with
        | ']' :: _ => members? (.char '-' :: .char a :: read) n r
        | r =>
          match member? r with
          | some (.char b, r) => if a ≤ b then members? (.range a b :: read) n r else none
          | _ => none
      | some (i, r) => members? (i :: read) n r

def bracketed? (s : List Char) : Option (CharSet × List Char) :=
  match s with
  | '[' :: _ => none
  | '^' :: r => (members? [] (r.length + 1) r).map fun (is, r) => (.except is, r)
  | r =>
    if "\\s\\S]".toList.isPrefixOf r then some (.any, r.drop 5)
    else (members? [] (r.length + 1) r).map fun (is, r) => (.of is, r)

def row? : Pattern → Option (List CharSet)
  | sets xs => some xs
  | seq p q =>
    match row? p, row? q with
    | some xs, some ys => some (xs ++ ys)
    | _, _ => none
  | group false p => row? p
  | _ => none

def number? (s : List Char) : Option (Nat × List Char) :=
  let ds := s.takeWhile (·.isDigit)
  if ds = [] then none
  else some (ds.foldl (fun n c => n * 10 + (c.toNat - '0'.toNat)) 0, s.drop ds.length)

/-- The bounds of a repetition, and what follows its sign. -/
def bounds? : List Char → Option (Nat × Option Nat × List Char)
  | '*' :: r => some (0, none, r)
  | '+' :: r => some (1, none, r)
  | '?' :: r => some (0, some 1, r)
  | '\x7b' :: r =>
    match number? r with
    | some (m, '\x7d' :: r) => some (m, some m, r)
    | some (m, ',' :: '\x7d' :: r) => some (m, none, r)
    | some (m, ',' :: r) =>
      match number? r with
      | some (n, '\x7d' :: r) => if m ≤ n then some (m, some n, r) else none
      | _ => none
    | _ => none
  | _ => none

def quantified? (p : Pattern) (s : List Char) : Option (Pattern × List Char) :=
  match bounds? s with
  | none => some (p, s)
  | some (least, most, r) =>
    let (greedy, r) := match r with
      | '?' :: r => (false, r)
      | r => (true, r)
    match row? p with
    | some [] => none
    | some xs =>
      if most = some 1 ∧ least = 0 then
        some (if greedy then alt p empty else alt empty p, r)
      else some (many [xs] least most greedy, r)
    | none =>
      if most = some 1 ∧ least = 0 then some (if greedy then alt p empty else alt empty p, r)
      else none

/-- A pattern up to the end of the text or a closing parenthesis. `before` holds the alternatives
read so far and `here` the sequence being read, both in reverse. -/
def readFrom? (before here : List Pattern) : Nat → List Char → Option (Pattern × List Char)
  | 0, _ => none
  | n + 1, s =>
    let close (r : List Char) := some (oneOf ((all here.reverse :: before).reverse), r)
    let push (p : Pattern) (r : List Char) :=
      match quantified? p r with
      | some (p, r) => readFrom? before (p :: here) n r
      | none => none
    let inside (r : List Char) (f : Pattern → Option Pattern) :=
      match readFrom? [] [] n r with
      | some (p, ')' :: r) =>
        match f p with
        | some p => push p r
        | none => none
      | _ => none
    let lookedBehind (positive : Bool) (p : Pattern) :=
      match row? p with
      | some [x] => some (behind positive x)
      | _ => none
    match s with
    | [] => close []
    | ')' :: r => close (')' :: r)
    | '|' :: r => readFrom? (all here.reverse :: before) [] n r
    | '(' :: '?' :: ':' :: r => inside r fun p => some (group false p)
    | '(' :: '?' :: '=' :: r => inside r fun p => some (ahead true p)
    | '(' :: '?' :: '!' :: r => inside r fun p => some (ahead false p)
    | '(' :: '?' :: '<' :: '=' :: r => inside r (lookedBehind true)
    | '(' :: '?' :: '<' :: '!' :: r => inside r (lookedBehind false)
    | '(' :: '?' :: _ => none
    | '(' :: r => inside r fun p => some (group true p)
    | '[' :: r =>
      match bracketed? r with
      | some (x, r) => push (set x) r
      | none => none
    | '^' :: r => push lineStart r
    | '$' :: r => push lineEnd r
    | '.' :: r => push (set (.except [.char '\n'])) r
    | '\\' :: 'Z' :: r => push textEnd r
    | '\\' :: 'b' :: r => push wordEdge r
    | '\\' :: c :: r =>
      match classSet? c, escapedChar? c with
      | some x, _ => push (set x) r
      | none, some d => push (set (.single d)) r
      | none, none => none
    | ['\\'] => none
    | c :: r => if "*+?".toList.contains c then none else push (set (.single c)) r

def read? (s : String) : Option Pattern :=
  match readFrom? [] [] (s.length + 1) s.toList with
  | some (p, []) => some p
  | _ => none

end FencedChat.Pattern
