import FencedChat.Proofs.Message.Template

/-!
The HTML of a message is safe and faithful. Its brackets are those of a fixed set of tags, which
nest, and the text between the tags is decoded to the segments of the message. Each hole of the
templates takes text escaped for its place, so text never reaches the markup as a bracket or, inside
an attribute, as a quote.
-/

namespace FencedChat.Html

open Markup

variable {h : Highlighter} {x : Segment} {xs : List Segment}

inductive Outline
  | text
  | inlineCode
  | lineBreak
  | codeBlock (categories : List Category)
  deriving DecidableEq, Repr

def Outline.of (h : Highlighter) : Segment → Outline
  | .text _ => text
  | .inlineCode _ => inlineCode
  | .lineBreak => lineBreak
  | .codeBlock b _ => codeBlock ((h.spans b.code (some b.language)).value.map Span.category)

def Outline.tagsWith (value language : List Char) : Outline → List Tag
  | text => []
  | inlineCode => [.inlineCode, .closing .span]
  | lineBreak => [.lineBreak]
  | codeBlock categories =>
    [.codeBlock, .codeHeader, .fileName, .closing .span, .addButton value, .closing .button,
      .closing .div, .preformatted, .code language] ++ categories.flatMap categoryTags ++
      [.closing .code, .closing .pre, .closing .div]

def Outline.tags (o : Outline) : List Tag := o.tagsWith [] []

theorem kind_tagsWith (value language : List Char) (o : Outline) :
    (o.tagsWith value language).map Tag.kind = o.tags := by
  have hc (c : Category) : (categoryTags c).map Tag.kind = categoryTags c := by
    unfold categoryTags
    split <;> rfl
  cases o with
  | codeBlock categories =>
    simp [Outline.tags, Outline.tagsWith, Tag.kind, List.map_flatMap, hc]
  | _ => rfl

theorem clean_tagsWith {value language : List Char} (hv : Clean value) (hl : Clean language)
    (o : Outline) : ∀ t ∈ o.tagsWith value language, t.Clean := by
  have hc (c : Category) : ∀ t ∈ categoryTags c, t.Clean := by
    unfold categoryTags
    split
    · simp
    · rename_i hne
      simp [Tag.Clean, hne]
  cases o with
  | codeBlock categories =>
    have hs : ∀ t ∈ categories.flatMap categoryTags, t.Clean := by
      intro t ht
      obtain ⟨c, _, ht⟩ := List.mem_flatMap.mp ht
      exact hc c t ht
    have hb : ∀ t ∈ [Tag.codeBlock, .codeHeader, .fileName, .closing .span, .addButton value,
        .closing .button, .closing .div, .preformatted, .code language], t.Clean := by
      simp [Tag.Clean, hv, hl]
    have he : ∀ t ∈ [Tag.closing .code, .closing .pre, .closing .div], t.Clean := by
      simp [Tag.Clean]
    rw [Outline.tagsWith, List.forall_mem_append, List.forall_mem_append]
    exact ⟨⟨hb, hs⟩, he⟩
  | _ => simp [Outline.tagsWith, Tag.Clean]

def attributes : Segment → List Char × List Char
  | .codeBlock b _ => ((escapeAttribute b.filename).toList, (escapeAttribute b.language).toList)
  | _ => ([], [])

theorem clean_attributes (x : Segment) : Clean (attributes x).1 ∧ Clean (attributes x).2 := by
  cases x with
  | codeBlock b markup =>
    simp only [attributes]
    exact ⟨clean_escapeAttribute b.filename, clean_escapeAttribute b.language⟩
  | _ => exact ⟨List.forall_mem_nil _, List.forall_mem_nil _⟩

def segmentTags (h : Highlighter) (x : Segment) : List Tag :=
  (Outline.of h x).tagsWith (attributes x).1 (attributes x).2

theorem tags_segmentPieces (active : Option String) (x : Segment) :
    Piece.tags (segmentPieces h active x) = (segmentTags h x).map Tag.inner := by
  cases x with
  | codeBlock b markup =>
    simp [segmentPieces, blockPieces, content, segmentTags, attributes, Outline.of,
      Outline.tagsWith, Tag.piece, tags_flatMap_spanPieces]
  | _ => simp [segmentPieces, content, segmentTags, Outline.of, Outline.tagsWith, Tag.piece]

theorem kind_segmentTags (x : Segment) : (segmentTags h x).map Tag.kind = (Outline.of h x).tags :=
  kind_tagsWith _ _ _

theorem clean_segmentTags (x : Segment) : ∀ t ∈ segmentTags h x, t.Clean :=
  clean_tagsWith (clean_attributes x).1 (clean_attributes x).2 _

theorem nested_content (v : String) (opened : List (List Char)) (ps : List Piece) :
    nested opened (content v ++ ps) = nested opened ps := nested_map_char opened _ ps

theorem nested_segmentPieces (active : Option String) (x : Segment) (opened : List (List Char))
    (ps : List Piece) : nested opened (segmentPieces h active x ++ ps) = nested opened ps := by
  cases x with
  | text v => exact nested_content v opened ps
  | inlineCode v =>
    rw [segmentPieces, List.append_assoc, List.cons_append, nested_opening (t := .inlineCode) rfl,
      nested_content, List.singleton_append, nested_closing]
  | lineBreak => exact nested_lineBreak opened ps
  | codeBlock b markup =>
    simp only [segmentPieces, blockPieces, List.append_assoc, List.cons_append, List.nil_append]
    rw [nested_opening (t := .codeBlock) rfl, nested_opening (t := .codeHeader) rfl,
      nested_opening (t := .fileName) rfl, nested_content, nested_closing,
      nested_opening (t := .addButton _) rfl, nested_content, nested_closing, nested_closing,
      nested_opening (t := .preformatted) rfl, nested_opening (t := .code _) rfl,
      nested_flatMap_spanPieces, nested_closing, nested_closing, nested_closing]

theorem nested_segments (active : Option String) (xs : List Segment) :
    nested [] (xs.flatMap (segmentPieces h active)) = true := by
  induction xs with
  | nil => rfl
  | cons x xs ih => rw [List.flatMap_cons, nested_segmentPieces, ih]

/-- Whether pieces are a text, free of tags. -/
def Spelled (v : String) (ps : List Piece) : Prop :=
  Piece.tags ps = [] ∧ decode (Piece.chars ps) = .ok v.toList

theorem spelled_content (v : String) : Spelled v (content v) := by
  rw [Spelled, content, Piece.tags_map_char, Piece.chars_map_char]
  exact ⟨rfl, decode_escapeChars v.toList⟩

/-- Whether pieces show a segment: what stands between the tags of its template, and in their
attributes, is decoded to what the segment holds. -/
def Shows (h : Highlighter) (active : Option String) : Segment → List Piece → Prop
  | .text v, ps => Spelled v ps
  | .inlineCode code, ps =>
    ∃ text, ps = Tag.inlineCode.piece :: text ++ [(Tag.closing .span).piece] ∧ Spelled code text
  | .lineBreak, ps => ps = [Tag.lineBreak.piece]
  | .codeBlock b _, ps =>
    ∃ name value label language code, ps = blockPieces name value label language code ∧
      Spelled b.filename name ∧ decode value = .ok b.filename.toList ∧
      Spelled (if active = some b.filename then "Add to Current File" else "Add to File") label ∧
      decode language = .ok b.language.toList ∧
      Piece.tags code =
        (((h.spans b.code (some b.language)).value.map Span.category).flatMap categoryTags).map
          Tag.inner ∧
      decode (Piece.chars code) = .ok b.code.toList

theorem shows_segmentPieces (active : Option String) (x : Segment) :
    Shows h active x (segmentPieces h active x) := by
  cases x with
  | text v => exact spelled_content v
  | inlineCode v => exact ⟨content v, rfl, spelled_content v⟩
  | lineBreak => rfl
  | codeBlock b markup =>
    refine ⟨_, _, _, _, _, rfl, spelled_content b.filename, decode_escapeAttribute b.filename,
      spelled_content (addLabel b active), decode_escapeAttribute b.language, ?_, ?_⟩
    · exact tags_flatMap_spanPieces _
    · rw [chars_flatMap_spanPieces, Highlighter.textOf_spans, decode_escapeChars]

theorem angles_notMem_escapeChars (s : List Char) : ∀ c ∈ escapeChars s, c ≠ '<' ∧ c ≠ '>' := by
  intro c hc
  refine ⟨fun he => lt_not_mem_escapeChars s (he ▸ hc), fun he => gt_notMem_escapeChars s (he ▸ hc)⟩

theorem angles_notMem_segmentPieces (active : Option String) (x : Segment) :
    ∀ c ∈ Piece.chars (segmentPieces h active x), c ≠ '<' ∧ c ≠ '>' := by
  have hc (v : String) : Piece.chars (content v) = escapeChars v.toList := Piece.chars_map_char _
  cases x with
  | text v =>
    rw [segmentPieces, hc]
    exact angles_notMem_escapeChars v.toList
  | inlineCode v =>
    have hv := angles_notMem_escapeChars v.toList
    simpa only [segmentPieces, Tag.piece, Piece.chars_append, Piece.chars_cons_tag,
      Piece.chars_nil, hc, List.append_nil] using hv
  | lineBreak => simp [segmentPieces, Tag.piece]
  | codeBlock b markup =>
    simp only [segmentPieces, blockPieces, Tag.piece, Piece.chars_append, Piece.chars_cons_tag,
      Piece.chars_nil, hc, chars_flatMap_spanPieces, List.append_nil, List.nil_append,
      ← escapeChars_append]
    exact angles_notMem_escapeChars _

theorem escaped_tag {inner : List Char} (h : Escaped inner) : Escaped (Piece.tag inner).written :=
  ((escaped_of_notMem (s := ['<']) (by decide)).append h).append
    (escaped_of_notMem (s := ['>']) (by decide))

theorem amp_notMem_inner {t : Tag} (h : t.kind = t) : '&' ∉ t.inner := by
  cases t with
  | addButton value =>
    obtain rfl : [] = value := Tag.addButton.inj h
    decide
  | code language =>
    obtain rfl : [] = language := Tag.code.inj h
    decide
  | token c => cases c <;> decide
  | closing e => cases e <;> decide
  | _ => decide

/-- A tag without an attribute to fill in holds no ampersand. -/
theorem escaped_written {t : Tag} (h : t.kind = t) : Escaped t.piece.written :=
  escaped_tag (escaped_of_notMem (amp_notMem_inner h))

theorem escaped_addButton (v : String) :
    Escaped (Tag.addButton (escapeAttribute v).toList).piece.written := by
  have hs : Escaped Tag.addButtonStart := escaped_of_notMem (by decide)
  exact escaped_tag ((hs.append (escaped_escapeAttribute v)).append
    (escaped_of_notMem (s := ['"']) (by decide)))

theorem escaped_code (v : String) :
    Escaped (Tag.code (escapeAttribute v).toList).piece.written := by
  have hs : Escaped Tag.codeStart := escaped_of_notMem (by decide)
  exact escaped_tag ((hs.append (escaped_escapeAttribute v)).append
    (escaped_of_notMem (s := ['"']) (by decide)))

theorem escaped_markupOf (spans : List Span) : Escaped (Highlighter.markupOf spans).toList := by
  induction spans with
  | nil => exact escaped_of_notMem (by simp)
  | cons x xs ih =>
    have ht := escaped_escapeChars x.text.toList
    rw [Highlighter.toList_markupOf_cons, Span.toList_markup]
    refine Escaped.append ?_ ih
    split
    · exact ht
    · rw [tagged_eq]
      have ho := escaped_written (t := .token x.category) rfl
      exact ho.append (ht.append (escaped_written (t := .closing .span) rfl))

theorem escaped_codeBlock (b : CodeBlock) (active : Option String) {markup : String}
    (hm : Escaped markup.toList) : Escaped (codeBlock b markup active).toList := by
  have hc (e : Element) := escaped_written (t := .closing e) rfl
  rw [toList_codeBlock]
  refine Escaped.append (Escaped.append (Escaped.append (Escaped.append ?_ hm) (hc _)) (hc _))
    (hc _)
  refine Escaped.append ?_ (escaped_code b.language)
  refine Escaped.append ?_ (escaped_written (t := .preformatted) rfl)
  refine Escaped.append (Escaped.append (Escaped.append ?_ (escaped_escapeChars _)) (hc _)) (hc _)
  refine Escaped.append (Escaped.append ?_ (hc _)) (escaped_addButton b.filename)
  refine Escaped.append ?_ (escaped_escapeChars _)
  exact ((escaped_written (t := .codeBlock) rfl).append
    (escaped_written (t := .codeHeader) rfl)).append
    (escaped_written (t := .fileName) rfl)

theorem escaped_segment (active : Option String) (hx : Rendered h x) :
    Escaped (segment active x).toList := by
  cases x with
  | text v =>
    change Escaped (escape v).toList
    rw [toList_escape]
    exact escaped_escapeChars v.toList
  | inlineCode v =>
    rw [toList_inlineCode]
    exact ((escaped_written (t := .inlineCode) rfl).append
      (escaped_escapeChars v.toList)).append (escaped_written (t := .closing .span) rfl)
  | lineBreak =>
    rw [toList_lineBreak]
    exact escaped_written (t := .lineBreak) rfl
  | codeBlock b markup =>
    obtain rfl : markup = _ := hx
    rw [Highlighter.render_value]
    exact escaped_codeBlock b active (escaped_markupOf _)

theorem escaped_segments (active : Option String) (hxs : ∀ x ∈ xs, Rendered h x) :
    Escaped (segments active xs).toList := by
  induction xs with
  | nil => exact escaped_of_notMem List.not_mem_nil
  | cons x xs ih =>
    rw [List.forall_mem_cons] at hxs
    rw [toList_segments_cons]
    exact (escaped_segment active hxs.1).append (ih hxs.2)

/-- HTML that holds no markup but that of the templates, and shows the segments of a message. -/
structure Faithful (h : Highlighter) (active : Option String) (xs : List Segment) (s : List Char) :
    Prop where
  /-- Every bracket is one of a tag. -/
  brackets : ∀ c ∈ Piece.chars (pieces s), c ≠ '<' ∧ c ≠ '>'
  /-- The tags are those of the templates, the values of their attributes are clean, and only the
  outlines decide which tags there are. -/
  tags : ∃ tags : List Tag, Piece.tags (pieces s) = tags.map Tag.inner ∧ (∀ t ∈ tags, t.Clean) ∧
    tags.map Tag.kind = (xs.map (Outline.of h)).flatMap Outline.tags
  nested : nested [] (pieces s) = true
  escaped : Escaped s
  /-- The segments are shown one after the other. -/
  shown : ∃ parts, List.Forall₂ (Shows h active) xs parts ∧ parts.flatten = pieces s

theorem faithful_segments (active : Option String) (hxs : ∀ x ∈ xs, Rendered h x) :
    Faithful h active xs (segments active xs).toList where
  brackets := by
    intro c hc
    rw [pieces_segments active hxs, Piece.chars, List.filterMap_flatMap, List.mem_flatMap] at hc
    obtain ⟨x, _, hc⟩ := hc
    exact angles_notMem_segmentPieces active x c hc
  tags := by
    refine ⟨xs.flatMap (segmentTags h), ?_, ?_, ?_⟩
    · rw [pieces_segments active hxs, Piece.tags, List.filterMap_flatMap, List.map_flatMap]
      exact congrArg xs.flatMap (funext (tags_segmentPieces active))
    · intro t ht
      obtain ⟨x, _, ht⟩ := List.mem_flatMap.mp ht
      exact clean_segmentTags x t ht
    · rw [List.map_flatMap, List.flatMap_map]
      exact congrArg xs.flatMap (funext kind_segmentTags)
  nested := by
    rw [pieces_segments active hxs]
    exact nested_segments active xs
  escaped := escaped_segments active hxs
  shown := by
    refine ⟨xs.map (segmentPieces h active), ?_, ?_⟩
    · rw [List.forall₂_map_right_iff, List.forall₂_same]
      exact fun x _ => shows_segmentPieces active x
    · rw [pieces_segments active hxs, List.flatMap_def]

/-- The HTML of a message shows its segments and holds no markup but that of the templates, whatever
the message holds. -/
theorem message_faithful (r : MessageReader) (text : String) (active : Option String) :
    Faithful r.highlighter active (r.read text).value (message r text active).value.toList := by
  apply faithful_segments
  intro x hx
  cases x with
  | codeBlock b markup => exact r.markup_of_mem_readFrom hx
  | _ => exact trivial

end FencedChat.Html
