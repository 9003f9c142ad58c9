import FencedChat.Proofs.Highlight.Recovery
import FencedChat.Proofs.Screen.StyleRanges

/-!
The two views of a code block. Its markup and its text on the screen are made of the same spans: the
markup is that of the spans in turn, and the text is the code without the characters that a terminal
acts on, with one range for each classified span, at the place that is left of the span.
-/

namespace FencedChat

def controlChars : List Char := ['\x07', '\x08', '\x0b', '\x0c', '\x0d']

theorem isUnshowable_eq (c : Char) : isUnshowable c = decide (c ∈ controlChars) := by
  have hcode (d : Char) : c = d ↔ c.toNat = d.toNat := Char.toNat_inj.symm
  rw [Bool.eq_iff_iff, decide_eq_true_iff]
  simp only [isUnshowable, controlChars, Bool.or_eq_true, beq_iff_eq, List.mem_cons,
    List.not_mem_nil, or_false, hcode, or_assoc]
  rfl

theorem showable_eq_filter (s : List Char) : showable s = s.filter (· ∉ controlChars) := by
  simp only [showable, isUnshowable_eq, decide_not]

namespace Span

def isStyled (x : Span) : Bool := x.text != "" && x.category != .plain

def piece (x : Span) : StyledPiece := ⟨x.text, StyledText.categoryStyle x.category⟩

theorem isMarked_piece (x : Span) : x.piece.isMarked = x.isStyled := by
  obtain ⟨category, text⟩ := x
  cases category <;> rfl

theorem charsOf_pieces (spans : List Span) :
    StyledText.charsOf (spans.map piece) = showable (textOf spans) := by
  induction spans with
  | nil => rfl
  | cons x xs ih =>
    rw [List.map_cons, StyledText.charsOf_cons, ih, textOf_cons, showable_append]
    rfl

theorem length_filter_isMarked (spans : List Span) :
    ((spans.map piece).filter StyledPiece.isMarked).length = (spans.filter isStyled).length := by
  have hp : StyledPiece.isMarked ∘ piece = isStyled := funext isMarked_piece
  rw [List.filter_map, List.length_map, hp]

end Span

namespace StyledText

/-- Whether the ranges of a text are those of spans: one for each classified span that holds text,
in the order of the spans and apart from one another, with the style of its category, at the
characters that the text keeps of the span. -/
structure Styles (t : StyledText) (spans : List Span) : Prop where
  count : t.ranges.length = (spans.filter Span.isStyled).length
  covers : ∀ before x after, spans = before ++ x :: after → x.isStyled = true →
    ∃ r, t.ranges[(before.filter Span.isStyled).length]? = some r ∧
      t.plain.take r.start = showable (Span.textOf before) ∧
      t.plain.extract r.start r.stop = showable x.text.toList ∧
      categoryStyle x.category = some r.style
  apart : t.ranges.Pairwise fun a b => a.stop ≤ b.start
  inside : ∀ r ∈ t.ranges, r.start ≤ r.stop ∧ r.stop ≤ t.plain.length

variable {join : List StyledPiece → StyledText}

theorem Joins.plain_spans (h : Joins join) (spans : List Span) :
    (join (spans.map Span.piece)).plain = showable (Span.textOf spans) := by
  rw [h.plain_eq, Span.charsOf_pieces]

theorem Joins.styles (h : Joins join) (spans : List Span) :
    (join (spans.map Span.piece)).Styles spans where
  count := by rw [h.ranges_eq, length_rangesFrom, Span.length_filter_isMarked]
  covers := by
    rintro before x after rfl hx
    have hm : x.piece.isMarked = true := by rwa [x.isMarked_piece]
    have hget : (join (before.map Span.piece ++ x.piece :: after.map Span.piece)).ranges[
        ((before.map Span.piece).filter StyledPiece.isMarked).length]? =
          x.piece.range? (charsOf (before.map Span.piece)).length := h.getElem?_ranges hm
    rw [Span.length_filter_isMarked, Span.charsOf_pieces] at hget
    obtain ⟨r, hr⟩ := Option.isSome_iff_exists.mp
      ((x.piece.isSome_range? (showable (Span.textOf before)).length).trans hm)
    obtain ⟨-, hstyle, hstart, hstop⟩ := StyledPiece.range?_eq_some_iff.mp hr
    have hplain : (join ((before ++ x :: after).map Span.piece)).plain =
        showable (Span.textOf before) ++ (x.piece.shown ++ showable (Span.textOf after)) := by
      rw [h.plain_spans, Span.textOf_append, Span.textOf_cons, showable_append, showable_append]
      rfl
    refine ⟨r, ?_, ?_, ?_, hstyle⟩
    · rw [← hr, ← hget, List.map_append, List.map_cons]
    · rw [hplain, hstart, List.take_left]
    · rw [hplain, hstart, hstop, List.extract_eq_take_drop, List.drop_left, Nat.add_sub_cancel_left,
        List.take_left]
      rfl
  apart := h.apart _
  inside := fun _ hr => h.inside hr

theorem plain_ofSpans (spans : List Span) : (ofSpans spans).plain = showable (Span.textOf spans) :=
  joins_ofPieces.plain_spans spans

theorem styles_ofSpans (spans : List Span) : (ofSpans spans).Styles spans :=
  joins_ofPieces.styles spans

end StyledText

/-- The markup of a code is that of its spans, one after the other, and the text on the screen is
the code without control characters, with the spans' ranges. This holds of a code of any language or
of none, and of any length. -/
theorem Highlighter.views_agree (h : Highlighter) (code : String) (language : Option String) :
    let spans := (h.spans code language).value
    (h.render code language).value = String.join (spans.map Span.markup) ∧
    (StyledText.ofSpans spans).plain = code.toList.filter (· ∉ controlChars) ∧
    (StyledText.ofSpans spans).Styles spans := by
  intro spans
  refine ⟨h.render_value code language, ?_, StyledText.styles_ofSpans spans⟩
  rw [StyledText.plain_ofSpans, h.textOf_spans code language, showable_eq_filter]

end FencedChat
