import FencedChat.Console.Emoji
import FencedChat.Console.Style
import FencedChat.Text.Blank
import FencedChat.Text.Showable

/-!
Style tags: a name in square brackets starts a style and a name behind a slash ends it. The tags
themselves are not shown. A backslash before a tag makes it ordinary text, in which emoji stand in
place of their codes and unshowable characters are left out.
-/

namespace FencedChat.StyleTag

/-- Why a tagged text cannot be shown: a closing tag that closes nothing, or the name of a style. -/
inductive TagError
  | unmatched (tag : List Char) (position : Nat)
  | nothingToClose (position : Nat)
  /-- A tag names a color that cannot be read. -/
  | color (e : Console.ColorError)
  | other (message : String)
  deriving DecidableEq, Repr

def TagError.message : TagError → String
  | unmatched tag position =>
    "closing tag '[" ++ String.ofList tag ++ "]' at position " ++ toString position ++
      " doesn't match any open tag"
  | nothingToClose position =>
    "closing tag '[/]' at position " ++ toString position ++ " has nothing to close"
  | color e => e.message
  | other message => message

inductive Piece
  | text (s : List Char)
  | tag (position : Nat) (body : List Char)
  deriving DecidableEq, Repr

def isTagStart (c : Char) : Bool := c.isLower || c == '#' || c == '/' || c == '@'

def isBracket (c : Char) : Bool := c == '[' || c == ']'

/-- The text of a tag whose opening bracket has been read, and what follows the tag. -/
def body? : List Char → Option (List Char × List Char)
  | [] => none
  | c :: r =>
    if isTagStart c then
      match r.dropWhile fun c => !isBracket c with
      | ']' :: rest => some (c :: r.takeWhile fun c => !isBracket c, rest)
      | _ => none
    else none

theorem length_body? {s body rest : List Char} (h : body? s = some (body, rest)) :
    rest.length < s.length := by
  cases s with
  | nil => simp [body?] at h
  | cons c r =>
    simp only [body?] at h
    split at h
    · split at h
      · rename_i heq
        have := (List.dropWhile_sublist (fun c => !isBracket c) (l := r)).length_le
        rw [heq] at this
        simp only [Option.some.injEq, Prod.mk.injEq] at h
        simp only [List.length_cons, ← h.2] at this ⊢
        omega
      · simp at h
    · simp at h

/-- Ordinary text, in which a backslash before a bracket is not shown. -/
def unescape : List Char → List Char
  | [] => []
  | '\\' :: '[' :: r => '[' :: unescape r
  | c :: r => c :: unescape r

def flush (plain : List Char) (pieces : List Piece) : List Piece :=
  if plain.isEmpty then pieces else .text (unescape plain.reverse) :: pieces

/-- The pieces of a text behind the ordinary text `plain`, held in reverse, and a run of
backslashes. The text starts at the given position. -/
def piecesOnto (plain : List Char) (slashes position : Nat) (s : List Char) : List Piece :=
  match s with
  | [] => flush (List.replicate slashes '\\' ++ plain) []
  | c :: r =>
    if c = '\\' then piecesOnto plain (slashes + 1) (position + 1) r
    else
      match _h : if c = '[' then body? r else none with
      | some (body, rest) =>
        let after := position + body.length + 2
        let half := List.replicate (slashes / 2) '\\'
        let pieces := if slashes % 2 = 1 then
            .text ('[' :: body ++ [']']) :: piecesOnto [] 0 after rest
          else .tag position body :: piecesOnto [] 0 after rest
        flush plain (if half.isEmpty then pieces else .text half :: pieces)
      | none => piecesOnto (c :: (List.replicate slashes '\\' ++ plain)) 0 (position + 1) r
termination_by s.length
decreasing_by
  all_goals first
    | (simp only [List.length_cons]; omega)
    | (have h : body? r = some (body, rest) := by split at _h <;> simp_all
       have := length_body? h
       simp only [List.length_cons]; omega)

def pieces (s : List Char) : List Piece := piecesOnto [] 0 0 s

/-- What is shown of pieces if they can be shown at all: the text without the tags, with emoji in
place of their codes and without unshowable characters. -/
def visible (emojiOf? : List Char → Option (List Char)) (ps : List Piece) : List Char :=
  ps.flatMap fun
    | .text s => showable (Console.withEmoji emojiOf? s)
    | .tag _ _ => []

def tags (ps : List Piece) : List (List Char) :=
  ps.filterMap fun
    | .text _ => none
    | .tag _ body => some body

def isClosing (body : List Char) : Bool := body.head? == some '/'

/-- Whether the tags up to some place close more styles than they open. -/
def ClosesTooMany (bodies : List (List Char)) : Prop :=
  ∃ before, before <+: bodies ∧ before.countP (!isClosing ·) < before.countP isClosing

def tagName (body : List Char) : List Char := body.takeWhile (· ≠ '=')

/-- The shown text of pieces, while the styles with the given names are open, innermost first. What
a tag that starts with an at sign says behind its name is not looked at. -/
def shownFrom (stack : List (List Char)) : List Piece → Except TagError (List Char)
  | [] => .ok []
  | .text s :: rest =>
    (shownFrom stack rest).map (showable (Console.withEmoji Console.namedEmoji? s) ++ ·)
  | .tag position body :: rest =>
    match tagName body with
    | '/' :: name =>
      if name.all isBlank then
        match stack with
        | [] => .error (.nothingToClose position)
        | _ :: stack => shownFrom stack rest
      else do
        let key ← (Console.Style.nameKey name).mapError .color
        if stack.contains key then shownFrom (stack.erase key) rest
        else .error (.unmatched body position)
    | name => do shownFrom ((← (Console.Style.nameKey name).mapError .color) :: stack) rest

/-- The text that a tagged text shows. -/
def shown (s : String) : Except TagError String :=
  (shownFrom [] (pieces s.toList)).map String.ofList

end FencedChat.StyleTag
