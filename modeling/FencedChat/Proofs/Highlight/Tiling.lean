import FencedChat.Proofs.Grammar.Registry
import FencedChat.Proofs.Highlight.Recovery
import FencedChat.Proofs.Language.Moving

/-!
Spans tile the text. A text is cut into spans that hold text each, and between two classified spans
stands at most one plain one. This needs grammars whose rules always take a character, as those of
the built-in languages do; a text that is not classified is one span.
-/

namespace FencedChat

/-- Spans cut a text into pieces that are not empty, no two plain ones side by side. -/
structure Span.Tile (spans : List Span) (code : String) : Prop where
  text : String.join (spans.map Span.text) = code
  text_ne : ∀ x ∈ spans, x.text ≠ ""
  apart : ∀ before x y after, spans = before ++ x :: y :: after →
    ¬ (x.category = .plain ∧ y.category = .plain)
  nil_iff : code = "" ↔ spans = []

namespace Span

variable {spans : List Span} {code : String}

theorem toList_join_text (spans : List Span) :
    (String.join (spans.map Span.text)).toList = textOf spans := by
  rw [String.toList_join, List.flatMap_map]
  rfl

theorem Tile.of_isChain (ht : textOf spans = code.toList) (hne : ∀ x ∈ spans, x.text ≠ "")
    (hc : spans.IsChain Apart) : Tile spans code where
  text := by
    rw [← String.toList_inj, toList_join_text, ht]
  text_ne := hne
  apart := by
    rintro before x y after rfl ⟨hx, hy⟩
    have hxy : Apart x y := (List.isChain_append_cons_cons.mp hc).2.1
    rcases hxy with h | h
    · exact h hx
    · exact h hy
  nil_iff := by
    constructor
    · rintro rfl
      cases spans with
      | nil => rfl
      | cons x xs =>
        have hx : x.text.toList = [] := (List.append_eq_nil_iff.mp ht).1
        exact absurd (String.toList_eq_nil_iff.mp hx) (hne x List.mem_cons_self)
    · rintro rfl
      exact String.toList_eq_nil_iff.mp ht.symm

end Span

/-- The spans of a built-in grammar tile the text. -/
theorem Grammar.tile_tokens {g : Grammar} (hg : g ∈ Language.builtin) (code : String) :
    Span.Tile (g.tokens code) code := by
  have hm := Language.neverEmpty_of_mem_builtin hg
  have hw := walks_scan g (Language.pairwise_of_mem_builtin g hg) hm code
  exact .of_isChain (g.textOf_tokens code) (Span.text_ne_of_mem_joinPlain (hw.text_ne hm))
    (Span.isChain_joinPlain _)

/-- The spans of a built-in grammar are the walk by its rules: the pieces of a walk are apart
already, so joining leaves them as they are. -/
theorem Grammar.walks_tokens {g : Grammar} (hg : g ∈ Language.builtin) (code : String) :
    Walks g.rules (.start code.toList) (g.tokens code) := by
  have hw := walks_scan g (Language.pairwise_of_mem_builtin g hg)
    (Language.neverEmpty_of_mem_builtin hg) code
  rw [tokens, Span.joinPlain_of_isChain hw.isChain]
  exact hw

/-- Behind the spans before it a span is what comes next. -/
theorem Grammar.rest_eq (g : Grammar) {code : String} {before after : List Span} {x : Span}
    {s : Cursor} (h : g.tokens code = before ++ x :: after)
    (hs : (Cursor.start code.toList).Passes (Span.textOf before) s) :
    s.rest = x.text.toList ++ Span.textOf after := by
  have hcode : code.toList = Span.textOf before ++ s.rest := hs.rest
  rw [← g.textOf_tokens, h, Span.textOf_append, Span.textOf_cons] at hcode
  exact (List.append_cancel_left hcode).symm

namespace Highlighter

theorem tile_plainSpans (code : String) : Span.Tile (plainSpans code) code := by
  apply Span.Tile.of_isChain (textOf_plainSpans code)
  · unfold plainSpans
    split
    · exact List.forall_mem_nil _
    · rename_i hc
      simpa using hc
  · unfold plainSpans
    split
    · exact .nil
    · exact .singleton _

theorem spans_value_of_get? {h : Highlighter} {code : String} {language : Option String}
    {g : Grammar} (hg : language.bind h.registry.get? = some g) (hl : ¬ h.maxChars < code.length) :
    (h.spans code language).value = g.tokens code := by
  simp only [spans, grammarFor, hg, hl, if_false]
  rfl

/-- A text is classified by the grammar of its language unless there is none or the text is too
long. -/
theorem spans_value (h : Highlighter) (code : String) (language : Option String) :
    (h.spans code language).value = plainSpans code ∨
      ∃ g, language.bind h.registry.get? = some g ∧ ¬ h.maxChars < code.length ∧
        (h.spans code language).value = g.tokens code := by
  cases hg : language.bind h.registry.get? with
  | none =>
    left
    simp only [spans, grammarFor, hg]
    rfl
  | some g =>
    by_cases hl : h.maxChars < code.length
    · left
      simp only [spans, grammarFor, hg, hl, if_true]
      rfl
    · right
      exact ⟨g, rfl, hl, spans_value_of_get? hg hl⟩

theorem mem_builtin_of_get? {language : Option String} {g : Grammar}
    (h : language.bind Language.registry.get? = some g) : g ∈ Language.builtin := by
  obtain ⟨tag, -, htag⟩ := Option.bind_eq_some_iff.mp h
  exact Registry.mem_of_get?_ofList htag

theorem tile_spans (h : Highlighter) (code : String) (language : Option String)
    (hg : ∀ g, language.bind h.registry.get? = some g →
      g ∈ Language.builtin ∨ h.maxChars < code.length) :
    Span.Tile (h.spans code language).value code := by
  rcases h.spans_value code language with he | ⟨g, hget, hl, he⟩
  · rw [he]
    exact tile_plainSpans code
  · rw [he]
    rcases hg g hget with hmem | hlong
    · exact Grammar.tile_tokens hmem code
    · exact absurd hlong hl

/-- In any registry the spans of a text tile it if its grammar is a built-in one, if it has none,
and if the text is too long. With the built-in languages they always do, and up to the length that
is classified they are the pieces of the walk by the rules. -/
theorem spans_tile :
    (∀ (h : Highlighter) (code : String) (language : Option String),
      (∀ g, language.bind h.registry.get? = some g →
        g ∈ Language.builtin ∨ h.maxChars < code.length) →
      Span.Tile (h.spans code language).value code) ∧
    ∀ (maxChars : Int) (code : String) (language : Option String),
      let h : Highlighter := ⟨Language.registry, maxChars⟩
      Span.Tile (h.spans code language).value code ∧
      ∀ g, language.bind h.registry.get? = some g → code.length ≤ maxChars →
        Grammar.Walks g.rules (.start code.toList) (h.spans code language).value := by
  refine ⟨tile_spans, fun maxChars code language => ?_⟩
  intro h
  refine ⟨h.tile_spans code language fun g hg => .inl (mem_builtin_of_get? hg), ?_⟩
  intro g hg hl
  have hmem : g ∈ Language.builtin := mem_builtin_of_get? hg
  rw [spans_value_of_get? hg (Int.not_lt.mpr hl)]
  exact Grammar.walks_tokens hmem code

theorem spans_tile_three_chars :
    Span.Tile (Highlighter.spans ⟨.ofList [Language.json], 3⟩ "[1]" (some "json")).value "[1]" ∧
    Span.Tile (Highlighter.spans ⟨.ofList [Language.json], 3⟩ "[1]\n" (some "json")).value "[1]\n" ∧
    ∀ g, (some "json").bind Language.registry.get? = some g →
      Grammar.Walks g.rules (.start "[1]".toList)
        (Highlighter.spans ⟨Language.registry, 3⟩ "[1]" (some "json")).value := by
  have hjson : ∀ g ∈ [Language.json], g ∈ Language.builtin := by
    intro g hg
    obtain rfl := List.mem_singleton.mp hg
    simp [Language.builtin]
  refine ⟨?short, ?long, ?builtin⟩
  case short =>
    exact spans_tile.1 ⟨.ofList [Language.json], 3⟩ "[1]" (some "json") fun g hg =>
      .inl (hjson g (Registry.mem_of_get?_ofList hg))
  case long =>
    exact spans_tile.1 ⟨.ofList [Language.json], 3⟩ "[1]\n" (some "json") fun _ _ =>
      .inr (by decide)
  case builtin =>
    intro g hg
    exact (spans_tile.2 3 "[1]" (some "json")).2 g hg (by decide)

end Highlighter

end FencedChat
