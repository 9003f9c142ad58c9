import FencedChat.Pattern.Cursor

/-!
Patterns over text and how they match. A pattern is tried from left to right with backtracking: of
two alternatives the first one that lets the rest succeed wins, a greedy repetition tries its
longest run first and a lazy one its shortest, and a run that is skipped is taken as a whole.
-/

namespace FencedChat

/-- What a repetition repeats: sequences of sets, of which the first that fits is taken. -/
abbrev Stride := List (List CharSet)

def Stride.step? (u : Stride) (s : Cursor) : Option Cursor := u.findSome? fun xs => s.steps? xs

def Stride.steps? (u : Stride) : Nat → Cursor → Option Cursor
  | 0, s => some s
  | n + 1, s =>
    match u.step? s with
    | some t => u.steps? n t
    | none => none

/-- The places after up to `n` strides, furthest first, put before `nearer`. -/
def Stride.reach (u : Stride) : Nat → Cursor → List Cursor → List Cursor
  | 0, s, nearer => s :: nearer
  | n + 1, s, nearer =>
    match u.step? s with
    | some t => u.reach n t (s :: nearer)
    | none => s :: nearer

/-- The first result of `k` at the places after up to `n` strides, nearest first. -/
def Stride.findNearest (u : Stride) (k : Cursor → Option Cursor) : Nat → Cursor → Option Cursor
  | 0, s => k s
  | n + 1, s =>
    match k s with
    | some r => some r
    | none =>
      match u.step? s with
      | some t => u.findNearest k n t
      | none => none

inductive Pattern
  /-- The empty text. -/
  | empty
  /-- One character of each set in turn. -/
  | sets (xs : List CharSet)
  | seq (p q : Pattern)
  /-- The first pattern, and the second where the first leads nowhere. -/
  | alt (p q : Pattern)
  /-- At least `least` strides and at most `most`. -/
  | many (u : Stride) (least : Nat) (most : Option Nat) (greedy : Bool)
  /-- All characters of the set that follow, of which none is given back. -/
  | skip (x : CharSet)
  /-- The text from here on starts with a match, or does not. -/
  | ahead (positive : Bool) (p : Pattern)
  /-- The character before is in the set, or is not. -/
  | behind (positive : Bool) (x : CharSet)
  | lineStart
  | lineEnd
  | textEnd
  | wordEdge
  /-- A pattern in parentheses, whose match is remembered or not. -/
  | group (captured : Bool) (p : Pattern)
  deriving DecidableEq, Repr

namespace Pattern

/-- The first end of a match at `s` from which `k` succeeds, as what `k` gives there. -/
def run : Pattern → Cursor → (Cursor → Option Cursor) → Option Cursor
  | empty, s, k => k s
  | sets xs, s, k =>
    match s.steps? xs with
    | some t => k t
    | none => none
  | seq p q, s, k => p.run s fun t => q.run t k
  | alt p q, s, k =>
    match p.run s k with
    | some r => some r
    | none => q.run s k
  | many u least most greedy, s, k =>
    match u.steps? least s with
    | none => none
    | some t =>
      let more := match most with
        | some m => min (m - least) t.left
        | none => t.left
      if greedy then (u.reach more t []).findSome? k else u.findNearest k more t
  | skip x, s, k => k (s.skip x)
  | ahead positive p, s, k => if (p.run s some).isSome == positive then k s else none
  | behind positive x, s, k => if s.prevIn x == positive then k s else none
  | lineStart, s, k => if s.atLineStart then k s else none
  | lineEnd, s, k => if s.atLineEnd then k s else none
  | textEnd, s, k => if s.atEnd then k s else none
  | wordEdge, s, k => if s.atWordEdge then k s else none
  | group _ p, s, k => p.run s k

/-- The end of the match at `s`. -/
def match? (p : Pattern) (s : Cursor) : Option Cursor := p.run s some

/-- Whether the empty text, standing alone, matches. -/
def matchesEmpty (p : Pattern) : Bool := (p.match? (.start [])).isSome

def captures : Pattern → Bool
  | seq p q => p.captures || q.captures
  | alt p q => p.captures || q.captures
  | ahead _ p => p.captures
  | group captured p => captured || p.captures
  | _ => false

def text (s : String) : Pattern := sets (s.toList.map .single)

def set (x : CharSet) : Pattern := sets [x]

def all : List Pattern → Pattern
  | [] => empty
  | [p] => p
  | p :: ps => seq p (all ps)

def oneOf : List Pattern → Pattern
  | [] => empty
  | [p] => p
  | p :: ps => alt p (oneOf ps)

def optional (p : Pattern) : Pattern := alt p empty

def star (x : CharSet) : Pattern := many [[x]] 0 none true

def plus (x : CharSet) : Pattern := many [[x]] 1 none true

def wholeRun (x : CharSet) : Pattern := seq (set x) (skip x)

/-- Between `m` and `n` characters of a set, as many as possible. -/
def between (m n : Nat) (x : CharSet) : Pattern := many [[x]] m (some n) true

/-- Any text, as short as possible. -/
def anything : Pattern := many [[CharSet.any]] 0 none false

def strides (u : Stride) : Pattern := many u 0 none true

def notAfter (x : CharSet) : Pattern := behind false x

def after (x : CharSet) : Pattern := behind true x

def notBefore (p : Pattern) : Pattern := ahead false p

def before (p : Pattern) : Pattern := ahead true p

end Pattern

end FencedChat
