import FencedChat.Proofs.Message.Template

/-!
The buttons of a message. A reader of its HTML finds one for each code block, in order.
-/

namespace FencedChat

namespace Html

open Markup

def opensButton (inner : List Char) : Bool := elementName inner = Element.button.name

def buttonsOf (ps : List Piece) : List (List Char × List Char) := elementsFrom opensButton none ps

def buttonTexts (html : String) : List String :=
  (buttonsOf (pieces html.toList)).map fun e => String.ofList e.2

theorem buttonsOf_chars (s : List Char) (ps : List Piece) :
    buttonsOf (s.map .char ++ ps) = buttonsOf ps := elementsFrom_chars s ps

theorem buttonsOf_tag {t : Tag} (h : t.opens ≠ some .button) (ps : List Piece) :
    buttonsOf (t.piece :: ps) = buttonsOf ps := by
  apply elementsFrom_tag
  cases t with
  | addButton value => exact absurd rfl h
  | closing e => cases e <;> rfl
  | _ => rfl

theorem buttonsOf_button (value s : List Char) (ps : List Piece) :
    buttonsOf ((Tag.addButton value).piece :: (s.map .char ++ (Tag.closing .button).piece :: ps)) =
      ((Tag.addButton value).inner, s) :: buttonsOf ps :=
  elementsFrom_element _ (Tag.addButton value).inner rfl s ps

theorem buttonsOf_spanPieces (spans : List Span) (ps : List Piece) :
    buttonsOf (spans.flatMap spanPieces ++ ps) = buttonsOf ps := by
  induction spans with
  | nil => rfl
  | cons x xs ih =>
    rw [List.flatMap_cons, List.append_assoc, ← ih, spanPieces]
    split
    · exact buttonsOf_chars _ _
    · rw [List.append_assoc, List.cons_append,
        buttonsOf_tag (t := .token x.category) (by simp [Tag.opens]), buttonsOf_chars,
        List.singleton_append, buttonsOf_tag (t := .closing .span) (by simp [Tag.opens])]

variable {h : Highlighter}

/-- The buttons of a segment: one if it is a code block, with the label of the block. -/
theorem buttonsOf_segmentPieces (active : Option String) (x : Segment) (ps : List Piece) :
    (buttonsOf (segmentPieces h active x ++ ps)).map Prod.snd =
      x.block?.toList.map (fun b => (addLabel b active).toList) ++ (buttonsOf ps).map Prod.snd := by
  cases x with
  | text v => exact congrArg _ (buttonsOf_chars _ ps)
  | inlineCode v =>
    rw [segmentPieces, List.append_assoc, List.cons_append,
      buttonsOf_tag (t := .inlineCode) (by simp [Tag.opens]), content, buttonsOf_chars,
      List.singleton_append, buttonsOf_tag (t := .closing .span) (by simp [Tag.opens])]
    rfl
  | lineBreak => exact congrArg _ (buttonsOf_tag (t := .lineBreak) (by simp [Tag.opens]) ps)
  | codeBlock b markup =>
    simp only [segmentPieces, blockPieces, content, List.append_assoc, List.cons_append,
      List.nil_append]
    rw [buttonsOf_tag (t := .codeBlock) (by simp [Tag.opens]),
      buttonsOf_tag (t := .codeHeader) (by simp [Tag.opens]),
      buttonsOf_tag (t := .fileName) (by simp [Tag.opens]), buttonsOf_chars,
      buttonsOf_tag (t := .closing .span) (by simp [Tag.opens]), buttonsOf_button,
      buttonsOf_tag (t := .closing .div) (by simp [Tag.opens]),
      buttonsOf_tag (t := .preformatted) (by simp [Tag.opens]),
      buttonsOf_tag (t := .code _) (by simp [Tag.opens]), buttonsOf_spanPieces,
      buttonsOf_tag (t := .closing .code) (by simp [Tag.opens]),
      buttonsOf_tag (t := .closing .pre) (by simp [Tag.opens]),
      buttonsOf_tag (t := .closing .div) (by simp [Tag.opens]), toList_addLabel]
    rfl

theorem buttonsOf_segments (active : Option String) (xs : List Segment) :
    (buttonsOf (xs.flatMap (segmentPieces h active))).map Prod.snd =
      (Segment.blocks xs).map fun b => (addLabel b active).toList := by
  induction xs with
  | nil => rfl
  | cons x xs ih =>
    rw [List.flatMap_cons, buttonsOf_segmentPieces, ih]
    cases x <;> rfl

/-- The HTML of a message has a button for each of its code blocks, in order, with the label of the
block. -/
theorem buttonTexts_message (r : MessageReader) (text : String) (active : Option String) :
    buttonTexts (message r text active).value =
      (Segment.blocks (r.read text).value).map fun b => addLabel b active := by
  have hxs : ∀ x ∈ (r.read text).value, Rendered r.highlighter x := by
    intro x hx
    cases x with
    | codeBlock b markup => exact r.markup_of_mem_readFrom hx
    | _ => exact trivial
  have hb := buttonsOf_segments (h := r.highlighter) active (r.read text).value
  change (buttonsOf (pieces (segments active (r.read text).value).toList)).map _ = _
  rw [← pieces_segments active hxs] at hb
  calc (buttonsOf (pieces (segments active (r.read text).value).toList)).map
        (fun e => String.ofList e.2)
      = ((buttonsOf (pieces (segments active (r.read text).value).toList)).map Prod.snd).map
          String.ofList := by rw [List.map_map]; rfl
    _ = (Segment.blocks (r.read text).value).map fun b => addLabel b active := by
        rw [hb, List.map_map]
        exact List.map_congr_left fun b _ => String.ofList_toList

end Html

end FencedChat
