import FencedChat.Message.Html
import FencedChat.Proofs.Markup.Escaping
import FencedChat.Proofs.Markup.Pieces
import FencedChat.Proofs.Message.Slices

/-!
The templates of the HTML of a message, as a reader of HTML sees them: each segment is a fixed
sequence of tags around text that is escaped for its place.
-/

namespace FencedChat.Html

open Markup

inductive Element
  | div
  | span
  | button
  | pre
  | code
  deriving DecidableEq, Repr

def Element.name : Element → List Char
  | div => ['d', 'i', 'v']
  | span => ['s', 'p', 'a', 'n']
  | button => ['b', 'u', 't', 't', 'o', 'n']
  | pre => ['p', 'r', 'e']
  | code => ['c', 'o', 'd', 'e']

inductive Tag
  | codeBlock
  | codeHeader
  | fileName
  /-- The button of a block, with the value of its `data-file-name`. -/
  | addButton (value : List Char)
  | preformatted
  /-- The code of a block, with the name of the language in its class. -/
  | code (language : List Char)
  | inlineCode
  | token (c : Category)
  | lineBreak
  | closing (e : Element)
  deriving DecidableEq, Repr

namespace Tag

def addButtonStart : List Char := "button class=\"add-to-file-btn\" data-file-name=\"".toList

def tokenStart : List Char := "span class=\"".toList

def codeStart : List Char := "code class=\"language-".toList

def inner : Tag → List Char
  | codeBlock => "div class=\"code-block\"".toList
  | codeHeader => "div class=\"code-header\"".toList
  | fileName => "span class=\"file-name\"".toList
  | addButton value => addButtonStart ++ value ++ ['"']
  | preformatted => Element.pre.name
  | code language => codeStart ++ language ++ ['"']
  | inlineCode => "span class=\"inline-code\"".toList
  | token c => tokenStart ++ c.name.toList ++ ['"']
  | lineBreak => ['b', 'r']
  | closing e => '/' :: e.name

def kind : Tag → Tag
  | addButton _ => addButton []
  | code _ => code []
  | t => t

/-- Whether the value of an attribute is clean, and a category is one that source text is classified
by. -/
def Clean : Tag → Prop
  | addButton value => Markup.Clean value
  | code language => Markup.Clean language
  | token c => c ≠ .plain
  | _ => True

def piece (t : Tag) : Piece := .tag t.inner

end Tag

theorem gt_notMem_value {v : List Char} (h : Markup.Clean v) : '>' ∉ v := by
  intro hm
  simpa using h '>' hm

theorem gt_notMem_inner {t : Tag} (h : t.Clean) : '>' ∉ t.inner := by
  cases t with
  | addButton value =>
    change '>' ∉ Tag.addButtonStart ++ value ++ ['"']
    rw [List.mem_append, List.mem_append, not_or, not_or]
    exact ⟨⟨by decide, gt_notMem_value h⟩, by decide⟩
  | code language =>
    change '>' ∉ Tag.codeStart ++ language ++ ['"']
    rw [List.mem_append, List.mem_append, not_or, not_or]
    exact ⟨⟨by decide, gt_notMem_value h⟩, by decide⟩
  | token c => cases c <;> decide
  | closing e => cases e <;> decide
  | _ => decide

theorem pieces_written {t : Tag} (h : t.Clean) (s : List Char) :
    pieces (t.piece.written ++ s) = t.piece :: pieces s := pieces_tag (gt_notMem_inner h) s

theorem nested_lineBreak (opened : List (List Char)) (ps : List Piece) :
    nested opened (Tag.lineBreak.piece :: ps) = nested opened ps := by
  rfl

theorem nested_closing (e : Element) (opened : List (List Char)) (ps : List Piece) :
    nested (e.name :: opened) ((Tag.closing e).piece :: ps) = nested opened ps := by
  cases e <;> rfl

def Tag.opens : Tag → Option Element
  | codeBlock => some .div
  | codeHeader => some .div
  | fileName => some .span
  | addButton _ => some .button
  | preformatted => some .pre
  | code _ => some .code
  | inlineCode => some .span
  | token _ => some .span
  | lineBreak => none
  | closing _ => none

theorem nested_opening {t : Tag} {e : Element} (h : t.opens = some e) (opened : List (List Char))
    (ps : List Piece) : nested opened (t.piece :: ps) = nested (e.name :: opened) ps := by
  cases t <;> simp only [Tag.opens, Option.some.injEq, reduceCtorEq] at h <;> subst h <;> rfl

def spanPieces (x : Span) : List Piece :=
  let text := (escapeChars x.text.toList).map Piece.char
  if x.category = .plain then text
  else (Tag.token x.category).piece :: text ++ [(Tag.closing .span).piece]

def categoryTags (c : Category) : List Tag :=
  if c = .plain then [] else [.token c, .closing .span]

theorem tagged_eq (c : Category) (inner : List Char) :
    tagged c inner =
      (Tag.token c).piece.written ++ (inner ++ (Tag.closing .span).piece.written) := by
  have hs : tagStart = '<' :: Tag.tokenStart := by decide
  have ho :
      (Tag.token c).piece.written = '<' :: (Tag.tokenStart ++ c.name.toList ++ ['"']) ++ ['>'] :=
    rfl
  have hc : (Tag.closing .span).piece.written = tagEnd := by decide
  rw [tagged, hs, ho, hc]
  simp only [List.cons_append, List.append_assoc, List.nil_append]

theorem pieces_spanMarkup (x : Span) (s : List Char) :
    pieces (x.markup.toList ++ s) = spanPieces x ++ pieces s := by
  have hlt := lt_not_mem_escapeChars x.text.toList
  rw [Span.toList_markup, spanPieces]
  split
  · exact pieces_append hlt s
  · rename_i hc
    rw [tagged_eq, List.append_assoc, pieces_written (t := .token x.category) hc, List.append_assoc,
      pieces_append hlt, pieces_written (t := .closing .span) trivial]
    simp

theorem pieces_markupOf (spans : List Span) (s : List Char) :
    pieces ((Highlighter.markupOf spans).toList ++ s) = spans.flatMap spanPieces ++ pieces s := by
  induction spans with
  | nil => rfl
  | cons x xs ih =>
    rw [Highlighter.toList_markupOf_cons, List.append_assoc, pieces_spanMarkup, ih,
      List.flatMap_cons, List.append_assoc]

theorem tags_spanPieces (x : Span) :
    Piece.tags (spanPieces x) = (categoryTags x.category).map Tag.inner := by
  unfold spanPieces categoryTags
  split
  · simp
  · simp [Tag.piece]

theorem chars_spanPieces (x : Span) : Piece.chars (spanPieces x) = escapeChars x.text.toList := by
  unfold spanPieces
  split
  · simp
  · simp [Tag.piece]

theorem tags_flatMap_spanPieces (spans : List Span) : Piece.tags (spans.flatMap spanPieces) =
    ((spans.map Span.category).flatMap categoryTags).map Tag.inner := by
  induction spans with
  | nil => rfl
  | cons x xs ih => simp [tags_spanPieces, ih]

theorem chars_flatMap_spanPieces (spans : List Span) :
    Piece.chars (spans.flatMap spanPieces) = escapeChars (Span.textOf spans) := by
  induction spans with
  | nil => rfl
  | cons x xs ih => simp [chars_spanPieces, ih]

theorem nested_spanPieces (x : Span) (opened : List (List Char)) (ps : List Piece) :
    nested opened (spanPieces x ++ ps) = nested opened ps := by
  unfold spanPieces
  split
  · exact nested_map_char opened _ ps
  · rw [List.append_assoc, List.cons_append, nested_opening (t := .token x.category) rfl,
      nested_map_char, List.singleton_append, nested_closing]

theorem nested_flatMap_spanPieces (spans : List Span) (opened : List (List Char))
    (ps : List Piece) :
    nested opened (spans.flatMap spanPieces ++ ps) = nested opened ps := by
  induction spans with
  | nil => rfl
  | cons x xs ih => rw [List.flatMap_cons, List.append_assoc, nested_spanPieces, ih]

def content (s : String) : List Piece := (escapeChars s.toList).map .char

/-- The pieces of a code block around those of its filename, its label and its code, with the values
of its attributes. -/
def blockPieces (name : List Piece) (value : List Char) (label : List Piece) (language : List Char)
    (code : List Piece) : List Piece :=
  [Tag.codeBlock.piece, Tag.codeHeader.piece, Tag.fileName.piece] ++ name ++
    [(Tag.closing .span).piece, (Tag.addButton value).piece] ++ label ++
    [(Tag.closing .button).piece, (Tag.closing .div).piece, Tag.preformatted.piece,
      (Tag.code language).piece] ++ code ++
    [(Tag.closing .code).piece, (Tag.closing .pre).piece, (Tag.closing .div).piece]

def segmentPieces (h : Highlighter) (active : Option String) : Segment → List Piece
  | .text s => content s
  | .inlineCode code => Tag.inlineCode.piece :: content code ++ [(Tag.closing .span).piece]
  | .lineBreak => [Tag.lineBreak.piece]
  | .codeBlock b _ =>
    blockPieces (content b.filename) (escapeAttribute b.filename).toList
      (content (addLabel b active))
      (escapeAttribute b.language).toList
      ((h.spans b.code (some b.language)).value.flatMap spanPieces)

theorem toList_addLabel (b : CodeBlock) (active : Option String) :
    escapeChars (addLabel b active).toList = (addLabel b active).toList := by
  unfold addLabel
  split <;> decide

theorem toList_codeBlock (b : CodeBlock) (markup : String) (active : Option String) :
    (codeBlock b markup active).toList =
      Tag.codeBlock.piece.written ++ Tag.codeHeader.piece.written ++ Tag.fileName.piece.written ++
      escapeChars b.filename.toList ++ (Tag.closing .span).piece.written ++
      (Tag.addButton (escapeAttribute b.filename).toList).piece.written ++
      escapeChars (addLabel b active).toList ++ (Tag.closing .button).piece.written ++
      (Tag.closing .div).piece.written ++ Tag.preformatted.piece.written ++
      (Tag.code (escapeAttribute b.language).toList).piece.written ++ markup.toList ++
      (Tag.closing .code).piece.written ++ (Tag.closing .pre).piece.written ++
      (Tag.closing .div).piece.written := by
  -- each literal is a run of whole tags, up to the start of one whose attribute is filled in
  have h₁ :
      "<div class=\"code-block\"><div class=\"code-header\"><span class=\"file-name\">".toList =
      Tag.codeBlock.piece.written ++ Tag.codeHeader.piece.written ++
        Tag.fileName.piece.written := by
    decide +kernel
  have h₂ : "</span><button class=\"add-to-file-btn\" data-file-name=\"".toList =
      (Tag.closing .span).piece.written ++ '<' :: Tag.addButtonStart := by decide +kernel
  have h₃ : "\">".toList = ['"', '>'] := by decide +kernel
  have h₄ : "</button></div><pre><code class=\"language-".toList =
      (Tag.closing .button).piece.written ++ (Tag.closing .div).piece.written ++
      Tag.preformatted.piece.written ++ '<' :: Tag.codeStart := by decide +kernel
  have h₅ : "</code></pre></div>".toList = (Tag.closing .code).piece.written ++
      (Tag.closing .pre).piece.written ++ (Tag.closing .div).piece.written := by decide +kernel
  have ho (v : List Char) : (Tag.addButton v).piece.written =
      '<' :: Tag.addButtonStart ++ v ++ ['"', '>'] := by
    have h : (Tag.addButton v).piece.written = '<' :: (Tag.addButtonStart ++ v ++ ['"']) ++ ['>'] :=
      rfl
    rw [h]
    simp only [List.cons_append, List.append_assoc, List.nil_append]
  have hc (v : List Char) :
      (Tag.code v).piece.written = '<' :: Tag.codeStart ++ v ++ ['"', '>'] := by
    have h : (Tag.code v).piece.written = '<' :: (Tag.codeStart ++ v ++ ['"']) ++ ['>'] := rfl
    rw [h]
    simp only [List.cons_append, List.append_assoc, List.nil_append]
  delta codeBlock
  simp only [String.toList_append, h₁, h₂, h₃, h₄, h₅, ho, hc]
  simp only [toList_escape, toList_addLabel, List.append_assoc, List.cons_append, List.nil_append]

theorem toList_inlineCode (v : String) (active : Option String) :
    (segment active (.inlineCode v)).toList =
      Tag.inlineCode.piece.written ++ escapeChars v.toList ++
      (Tag.closing .span).piece.written := by
  have h₁ : "<span class=\"inline-code\">".toList = Tag.inlineCode.piece.written := by
    decide +kernel
  have h₂ : "</span>".toList = (Tag.closing .span).piece.written := by decide +kernel
  change ("<span class=\"inline-code\">" ++ escape v ++ "</span>").toList = _
  simp only [String.toList_append, h₁, h₂, toList_escape]

theorem toList_lineBreak (active : Option String) :
    (segment active .lineBreak).toList = Tag.lineBreak.piece.written := by
  change "<br>".toList = Tag.lineBreak.piece.written
  decide +kernel

theorem pieces_content (v : String) (s : List Char) :
    pieces (escapeChars v.toList ++ s) = content v ++ pieces s :=
  pieces_append (lt_not_mem_escapeChars v.toList) s

theorem pieces_codeBlock (b : CodeBlock) (spans : List Span) (active : Option String)
    (s : List Char) :
    pieces ((codeBlock b (Highlighter.markupOf spans) active).toList ++ s) =
      blockPieces (content b.filename) (escapeAttribute b.filename).toList
        (content (addLabel b active)) (escapeAttribute b.language).toList
        (spans.flatMap spanPieces) ++ pieces s := by
  have hb := pieces_written (t := .addButton (escapeAttribute b.filename).toList)
    (clean_escapeAttribute b.filename)
  have hl := pieces_written (t := .code (escapeAttribute b.language).toList)
    (clean_escapeAttribute b.language)
  simp only [toList_codeBlock, List.append_assoc]
  rw [pieces_written (t := .codeBlock) trivial, pieces_written (t := .codeHeader) trivial,
    pieces_written (t := .fileName) trivial, pieces_content,
    pieces_written (t := .closing .span) trivial, hb, pieces_content,
    pieces_written (t := .closing .button) trivial, pieces_written (t := .closing .div) trivial,
    pieces_written (t := .preformatted) trivial, hl, pieces_markupOf,
    pieces_written (t := .closing .code) trivial, pieces_written (t := .closing .pre) trivial,
    pieces_written (t := .closing .div) trivial]
  simp only [blockPieces, List.append_assoc, List.cons_append, List.nil_append]

def Rendered (h : Highlighter) : Segment → Prop
  | .codeBlock b markup => markup = (h.render b.code (some b.language)).value
  | _ => True

variable {h : Highlighter} {x : Segment} {xs : List Segment}

theorem pieces_segment (active : Option String) (hx : Rendered h x) (s : List Char) :
    pieces ((segment active x).toList ++ s) = segmentPieces h active x ++ pieces s := by
  cases x with
  | text v =>
    change pieces ((escape v).toList ++ s) = _
    rw [toList_escape]
    exact pieces_content v s
  | inlineCode v =>
    rw [toList_inlineCode, List.append_assoc, List.append_assoc,
      pieces_written (t := .inlineCode) trivial, pieces_content,
      pieces_written (t := .closing .span) trivial]
    simp only [segmentPieces, List.append_assoc, List.cons_append, List.nil_append]
  | lineBreak =>
    rw [toList_lineBreak]
    exact pieces_written (t := .lineBreak) trivial s
  | codeBlock b markup =>
    obtain rfl : markup = _ := hx
    change pieces ((codeBlock b (h.render b.code (some b.language)).value active).toList ++ s) = _
    rw [Highlighter.render_value]
    exact pieces_codeBlock b _ active s

theorem toList_segments_cons (active : Option String) (x : Segment) (xs : List Segment) :
    (segments active (x :: xs)).toList =
      (segment active x).toList ++ (segments active xs).toList := by
  rw [segments, List.map_cons, String.join_cons, String.toList_append, ← segments]

theorem pieces_segments (active : Option String) (hxs : ∀ x ∈ xs, Rendered h x) :
    pieces (segments active xs).toList = xs.flatMap (segmentPieces h active) := by
  induction xs with
  | nil => rfl
  | cons x xs ih =>
    rw [List.forall_mem_cons] at hxs
    rw [toList_segments_cons, pieces_segment active hxs.1, ih hxs.2, List.flatMap_cons]

end FencedChat.Html
