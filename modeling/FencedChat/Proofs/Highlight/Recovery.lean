import FencedChat.Proofs.Highlight.Tokens
import FencedChat.Proofs.Markup.Decoding
import FencedChat.Proofs.Markup.Tags

/-!
Recovery of source text from its markup. Escaped text holds no opening bracket, so the brackets of
the markup of spans are those of their tags. Dropping the tags leaves the escaped text of the spans,
and decoding that gives the text that was rendered, whatever it holds itself.
-/

namespace FencedChat

open Markup

namespace Span

/-- The markup of a span: its escaped text, in the tag of its category unless it is plain. -/
theorem toList_markup (x : Span) : x.markup.toList =
    if x.category = .plain then escapeChars x.text.toList
    else tagged x.category (escapeChars x.text.toList) := by
  unfold markup
  split
  · exact toList_escape x.text
  · exact toList_wrap x.category x.text

end Span

namespace Highlighter

variable (h : Highlighter) (code : String) (language : Option String)

@[simp] theorem toList_markupOf_nil : (markupOf []).toList = [] := rfl

@[simp] theorem toList_markupOf_cons (x : Span) (xs : List Span) :
    (markupOf (x :: xs)).toList = x.markup.toList ++ (markupOf xs).toList := by
  simp [markupOf, String.join_cons]

/-- Dropping the tags of the markup of spans leaves their escaped text. -/
theorem dropTags_markupOf (spans : List Span) :
    dropTags (markupOf spans).toList = escapeChars (Span.textOf spans) := by
  induction spans with
  | nil => rfl
  | cons x xs ih =>
    have hlt := lt_not_mem_escapeChars x.text.toList
    rw [toList_markupOf_cons, Span.toList_markup, Span.textOf_cons, escapeChars_append, ← ih]
    split
    · exact dropTags_append hlt _
    · rename_i hc
      exact dropTags_tagged hc hlt _

theorem recover_markupOf (spans : List Span) :
    recover (markupOf spans) = .ok (String.ofList (Span.textOf spans)) := by
  rw [recover, recoverChars, dropTags_markupOf, decode_escapeChars]
  rfl

/-- Spans and markup of a text agree on whether the text is classified. -/
theorem render_value : (h.render code language).value = markupOf (h.spans code language).value := by
  simp only [render, spans, Logged.value_bind]
  split
  · simp only [Logged.value_pure, plainSpans]
    split
    · rename_i hc
      rw [hc]
      rfl
    · simp [markupOf, Span.markup, Span.escaped]
  · rfl

theorem textOf_plainSpans : Span.textOf (plainSpans code) = code.toList := by
  unfold plainSpans
  split
  · rename_i hc
    rw [hc]
    rfl
  · simp

/-- The spans of a text spell the text. -/
theorem textOf_spans : Span.textOf (h.spans code language).value = code.toList := by
  simp only [spans, Logged.value_bind]
  split
  · exact textOf_plainSpans code
  · exact Grammar.textOf_tokens _ code

theorem recover_render : recover (h.render code language).value = .ok code := by
  rw [render_value, recover_markupOf, textOf_spans, String.ofList_toList]

/-- What is recovered from a text has the same markup as the text itself. -/
theorem highlight_of_recover {x source : String} (hx : recover x = .ok source) :
    h.highlight x language = .ok (h.render source language) ∧
      h.highlight (h.render source language).value language = .ok (h.render source language) := by
  simp only [highlight, hx, recover_render, Except.map, and_self]

theorem exists_recover_iff (x : String) :
    (∃ source, recover x = .ok source) ↔ ¬ HasOversizedReference (dropTags x.toList) := by
  rw [← exists_decode_iff, recover, recoverChars]
  cases decode (dropTags x.toList) <;> simp [Except.map]

/-- Rendering is undone by recovery, so markup is its own markup. Any text, be it source text,
markup or neither, has markup that is its own markup exactly if no decimal reference in it, behind
its tags, has more digits than a number may have. -/
theorem highlight_idempotent :
    (∀ code, recover (h.render code language).value = .ok code) ∧
    (∀ code, h.highlight (h.render code language).value language =
      .ok (h.render code language)) ∧
    ∀ x, (∃ y, h.highlight x language = .ok y ∧ h.highlight y.value language = .ok y) ↔
      ¬ HasOversizedReference (dropTags x.toList) := by
  refine ⟨fun code => h.recover_render code language, ?_, ?_⟩
  · intro code
    exact (highlight_of_recover h language (h.recover_render code language)).1
  · intro x
    rw [← exists_recover_iff]
    constructor
    · rintro ⟨y, hy, _⟩
      cases hx : recover x with
      | ok source => exact ⟨source, rfl⟩
      | error e => simp [highlight, hx, Except.map] at hy
    · rintro ⟨source, hx⟩
      exact ⟨_, highlight_of_recover h language hx⟩

def onesReference (n : Nat) : String := String.ofList ('&' :: '#' :: List.replicate n '1')

theorem hasOversizedReference_onesReference {n : Nat} (hn : maxDigits < n) :
    HasOversizedReference (dropTags (onesReference n).toList) := by
  have hlt : '<' ∉ '&' :: '#' :: List.replicate n '1' := by simp [List.mem_replicate]
  rw [onesReference, String.toList_ofList, ← List.append_nil ('&' :: _), dropTags_append hlt]
  refine ⟨[], List.replicate n '1', by simp, ?_⟩
  simpa [List.takeWhile_replicate] using hn

theorem highlight_onesReference {n : Nat} (hn : maxDigits < n) :
    ¬ ∃ y, h.highlight (onesReference n) language = .ok y := by
  rintro ⟨y, hy⟩
  cases hx : recover (onesReference n) with
  | ok source =>
    exact (exists_recover_iff _).mp ⟨source, hx⟩ (hasOversizedReference_onesReference hn)
  | error e => simp [highlight, hx, Except.map] at hy

/-- Not every text has markup: a reference with one digit too many has none. -/
theorem highlight_onesReference_fails :
    ¬ ∃ y, standard.highlight (onesReference 4301) (some "python") = .ok y :=
  highlight_onesReference standard (some "python") (by decide)

end Highlighter

end FencedChat
