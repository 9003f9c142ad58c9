import FencedChat.Proofs.Markup.Decoding

/-!
Markup as a reader of HTML sees it: tags and the characters between them. A reader knows nothing of
how the markup was made; it cuts the text at the angle brackets, and it keeps a stack of the
elements that are open.
-/

namespace FencedChat.Markup

/-- A tag, as what stands between its brackets, or a character outside tags. -/
inductive Piece
  | tag (inner : List Char)
  | char (c : Char)
  deriving DecidableEq, Repr

/-- The pieces of a text. `opened` is what was read behind an opening bracket, in reverse; a bracket
that is never closed opens no tag. -/
def piecesFrom : Option (List Char) → List Char → List Piece
  | none, [] => []
  | some inner, [] => .char '<' :: inner.reverse.map .char
  | none, c :: s => if c = '<' then piecesFrom (some []) s else .char c :: piecesFrom none s
  | some inner, c :: s =>
    if c = '>' then .tag inner.reverse :: piecesFrom none s else piecesFrom (some (c :: inner)) s

def pieces (s : List Char) : List Piece := piecesFrom none s

namespace Piece

def written : Piece → List Char
  | tag inner => '<' :: inner ++ ['>']
  | char c => [c]

def tag? : Piece → Option (List Char)
  | tag inner => some inner
  | char _ => none

def char? : Piece → Option Char
  | tag _ => none
  | char c => some c

def tags (ps : List Piece) : List (List Char) := ps.filterMap tag?

def chars (ps : List Piece) : List Char := ps.filterMap char?

@[simp] theorem tags_append (ps qs : List Piece) : tags (ps ++ qs) = tags ps ++ tags qs := by
  simp [tags]

@[simp] theorem chars_append (ps qs : List Piece) : chars (ps ++ qs) = chars ps ++ chars qs := by
  simp [chars]

@[simp] theorem tags_cons_tag (inner : List Char) (ps : List Piece) :
    tags (.tag inner :: ps) = inner :: tags ps := rfl

@[simp] theorem chars_cons_tag (inner : List Char) (ps : List Piece) :
    chars (.tag inner :: ps) = chars ps := rfl

@[simp] theorem tags_nil : tags [] = [] := rfl

@[simp] theorem chars_nil : chars [] = [] := rfl

@[simp] theorem tags_map_char (s : List Char) : tags (s.map .char) = [] := by
  simp [tags, tag?]

@[simp] theorem chars_map_char (s : List Char) : chars (s.map .char) = s := by
  induction s with
  | nil => rfl
  | cons c s ih => exact congrArg (c :: ·) ih

end Piece

variable {s t inner : List Char} {ps qs : List Piece}

theorem written_piecesFrom (opened : Option (List Char)) (s : List Char) :
    (piecesFrom opened s).flatMap Piece.written =
      (match opened with | none => [] | some inner => '<' :: inner.reverse) ++ s := by
  fun_induction piecesFrom opened s with
  | case1 => rfl
  | case2 inner =>
    simp only [List.flatMap_cons, List.flatMap_map, Piece.written, List.flatMap_singleton',
      List.singleton_append, List.append_nil]
  | case3 s ih => simpa using ih
  | case4 c s hc ih => simpa [Piece.written] using ih
  | case5 inner s ih => simpa [Piece.written] using ih
  | case6 inner c s hc ih => simpa using ih

/-- Cutting a text into pieces loses nothing, so every bracket is in a tag or a character piece. -/
theorem written_pieces (s : List Char) : (pieces s).flatMap Piece.written = s :=
  written_piecesFrom none s

theorem pieces_append (h : '<' ∉ s) (t : List Char) :
    pieces (s ++ t) = s.map .char ++ pieces t := by
  induction s with
  | nil => rfl
  | cons c s ih =>
    rw [List.mem_cons, not_or] at h
    rw [List.cons_append, pieces, piecesFrom, if_neg (Ne.symm h.1), ← pieces, ih h.2]
    rfl

theorem piecesFrom_append (h : '>' ∉ s) (inner t : List Char) :
    piecesFrom (some inner) (s ++ '>' :: t) = .tag (inner.reverse ++ s) :: pieces t := by
  induction s generalizing inner with
  | nil =>
    rw [List.nil_append, piecesFrom, if_pos rfl, List.append_nil]
    rfl
  | cons c s ih =>
    rw [List.mem_cons, not_or] at h
    rw [List.cons_append, piecesFrom, if_neg (Ne.symm h.1), ih h.2]
    simp

theorem pieces_tag (h : '>' ∉ inner) (s : List Char) :
    pieces ((Piece.tag inner).written ++ s) = .tag inner :: pieces s := by
  have hw : (Piece.tag inner).written ++ s = '<' :: (inner ++ '>' :: s) := by simp [Piece.written]
  rw [hw, pieces, piecesFrom, if_pos rfl]
  exact piecesFrom_append h [] s

def elementName (inner : List Char) : List Char := inner.takeWhile (· ≠ ' ')

/-- Whether every closing tag closes the element opened last, and no element stays open. A line
break has no closing tag. -/
def nested (opened : List (List Char)) : List Piece → Bool
  | [] => opened.isEmpty
  | .char _ :: ps => nested opened ps
  | .tag ('/' :: name) :: ps =>
    match opened with
    | [] => false
    | e :: es => e == name && nested es ps
  | .tag inner :: ps =>
    if elementName inner = ['b', 'r'] then nested opened ps
    else nested (elementName inner :: opened) ps

@[simp] theorem nested_map_char (opened : List (List Char)) (s : List Char) (ps : List Piece) :
    nested opened (s.map .char ++ ps) = nested opened ps := by
  induction s with
  | nil => rfl
  | cons c s ih => exact ih

/-- The elements that are opened by selected tags, each as its tag and the characters up to the tag
that closes it. `opened` is the element that is being read, its characters in reverse. -/
def elementsFrom (select : List Char → Bool) :
    Option (List Char × List Char) → List Piece → List (List Char × List Char)
  | _, [] => []
  | none, .char _ :: ps => elementsFrom select none ps
  | some (opening, text), .char c :: ps => elementsFrom select (some (opening, c :: text)) ps
  | none, .tag inner :: ps =>
    elementsFrom select (if select inner then some (inner, []) else none) ps
  | some (opening, text), .tag inner :: ps =>
    if inner = '/' :: elementName opening then
      (opening, text.reverse) :: elementsFrom select none ps
    else elementsFrom select (some (opening, text)) ps

variable {select : List Char → Bool}

theorem elementsFrom_chars (s : List Char) (ps : List Piece) :
    elementsFrom select none (s.map .char ++ ps) = elementsFrom select none ps := by
  induction s with
  | nil => rfl
  | cons c s ih => exact ih

theorem elementsFrom_tag (h : select inner = false) (ps : List Piece) :
    elementsFrom select none (.tag inner :: ps) = elementsFrom select none ps := by
  rw [elementsFrom, h]
  rfl

theorem elementsFrom_text (opening text s : List Char) (ps : List Piece) :
    elementsFrom select (some (opening, text)) (s.map .char ++ ps) =
      elementsFrom select (some (opening, s.reverse ++ text)) ps := by
  induction s generalizing text with
  | nil => rfl
  | cons c s ih =>
    rw [List.reverse_cons, List.append_assoc]
    exact ih (c :: text)

/-- An element without tags inside, from its opening tag to the tag that closes it. -/
theorem elementsFrom_element (select : List Char → Bool) (inner : List Char)
    (h : select inner = true) (s : List Char) (ps : List Piece) :
    elementsFrom select none
      (.tag inner :: (s.map .char ++ .tag ('/' :: elementName inner) :: ps)) =
      (inner, s) :: elementsFrom select none ps := by
  rw [elementsFrom, if_pos h, elementsFrom_text, elementsFrom, if_pos rfl, List.append_nil,
    List.reverse_reverse]

end FencedChat.Markup
