import FencedChat.Pattern.Basic

/-!
The written form of patterns, in the usual regular expression notation.
-/

namespace FencedChat

/-- Characters that a backslash precedes in the written form of a literal text. -/
def isEscapedInPattern (c : Char) : Bool :=
  "\t\n\x0b\x0c\r #$&()*+-.?[\\]^\x7b|\x7d~".toList.contains c

def literalSource (c : Char) : List Char := if isEscapedInPattern c then ['\\', c] else [c]

namespace CharSet

def memberSource (c : Char) : List Char :=
  if c == '\n' then ['\\', 'n']
  else if c == '\t' then ['\\', 't']
  else if "\\]^-".toList.contains c then ['\\', c]
  else [c]

def Item.source : Item → List Char
  | char c => memberSource c
  | range a b => memberSource a ++ '-' :: memberSource b
  | word => ['\\', 'w']
  | digit => ['\\', 'd']
  | blank => ['\\', 's']

/-- The written form of a set. A set of one character is that character. -/
def source (x : CharSet) : List Char :=
  match x with
  | ⟨true, []⟩ => "[\\s\\S]".toList
  | ⟨false, [.char c]⟩ => literalSource c
  | ⟨false, [.word]⟩ => ['\\', 'w']
  | ⟨false, [.digit]⟩ => ['\\', 'd']
  | ⟨false, [.blank]⟩ => ['\\', 's']
  | ⟨true, [.word]⟩ => ['\\', 'W']
  | ⟨true, [.digit]⟩ => ['\\', 'D']
  | ⟨true, [.blank]⟩ => ['\\', 'S']
  | ⟨negated, items⟩ =>
    '[' :: (if negated then ['^'] else []) ++ items.flatMap Item.source ++ [']']

end CharSet

namespace Pattern

/-- How tightly a written pattern has to hold together: as a whole, as a member of a sequence, or as
what a quantifier follows. -/
inductive Binding
  | whole
  | member
  | atom
  deriving DecidableEq, Repr

def parenthesized (s : List Char) : List Char := "(?:".toList ++ s ++ [')']

def quantifier (least : Nat) (most : Option Nat) (greedy : Bool) : List Char :=
  (match least, most with
    | 0, none => ['*']
    | 1, none => ['+']
    | 0, some 1 => ['?']
    | m, none => '\x7b' :: (toString m).toList ++ [',', '\x7d']
    | m, some n => '\x7b' :: (toString m).toList ++ ',' :: (toString n).toList ++ ['\x7d'])
  ++ (if greedy then [] else ['?'])

/-- The strides of a repetition, written as alternatives. -/
def strideSource (u : Stride) : List Char :=
  match u with
  | [[x]] => x.source
  | u => parenthesized (List.intercalate ['|'] (u.map fun xs => xs.flatMap CharSet.source))

def sourceIn : Binding → Pattern → List Char
  | b, empty => if b = .atom then parenthesized [] else []
  | b, sets xs =>
    if b = .atom && xs.length != 1 then parenthesized (xs.flatMap CharSet.source)
    else xs.flatMap CharSet.source
  | b, seq p q =>
    let s := sourceIn .member p ++ sourceIn .member q
    if b = .atom then parenthesized s else s
  | b, alt p empty =>
    let s := sourceIn .atom p ++ ['?']
    if b = .atom then parenthesized s else s
  | b, alt p q =>
    let s := sourceIn .whole p ++ '|' :: sourceIn .whole q
    if b = .whole then s else parenthesized s
  | b, many u least most greedy =>
    let s := strideSource u ++ quantifier least most greedy
    if b = .atom then parenthesized s else s
  | b, skip x =>
    let s := x.source ++ ['*', '+']
    if b = .atom then parenthesized s else s
  | _, ahead positive p =>
    '(' :: '?' :: (if positive then '=' else '!') :: sourceIn .whole p ++ [')']
  | _, behind positive x =>
    '(' :: '?' :: '<' :: (if positive then '=' else '!') :: x.source ++ [')']
  | _, lineStart => ['^']
  | _, lineEnd => ['$']
  | _, textEnd => ['\\', 'Z']
  | _, wordEdge => ['\\', 'b']
  | _, group captured p =>
    '(' :: (if captured then [] else ['?', ':']) ++ sourceIn .whole p ++ [')']

def source (p : Pattern) : String := String.ofList (sourceIn .whole p)

end Pattern

end FencedChat
