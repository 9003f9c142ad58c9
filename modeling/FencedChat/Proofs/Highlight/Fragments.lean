import FencedChat.Proofs.Highlight.Recovery
import FencedChat.Proofs.Markup.Escaping
import FencedChat.Proofs.Markup.Pieces

/-!
The form of rendered markup: escaped text, and wrappers around escaped text. Escaped text holds no
bracket, so no wrapper stands inside another one, and the markup alone tells which wrappers there
are. They are the classified spans of the source text, in order.
-/

namespace FencedChat

namespace Markup

/-- Text that is escaped for the content of an element. -/
structure IsContent (s : List Char) : Prop where
  brackets : ∀ c ∈ s, c ≠ '<' ∧ c ≠ '>'
  ampersands : EscapedBy contentReferences s

theorem isContent_escapeChars (s : List Char) : IsContent (escapeChars s) where
  brackets := by
    intro c hc
    constructor
    · rintro rfl
      exact lt_not_mem_escapeChars s hc
    · rintro rfl
      exact gt_notMem_escapeChars s hc
  ampersands := escapedBy_flatMap escapedBy_escapeChar s

theorem IsContent.lt_notMem {s : List Char} (h : IsContent s) : '<' ∉ s :=
  fun hm => (h.brackets '<' hm).1 rfl

inductive Fragment
  | text (s : List Char)
  | wrapper (cls : String) (s : List Char)
  deriving DecidableEq, Repr

namespace Fragment

def classes : List String := ["comment", "string", "number", "keyword", "builtin", "operator"]

def written : Fragment → List Char
  | text s => s
  | wrapper cls s =>
    "<span class=\"".toList ++ cls.toList ++ "\">".toList ++ s ++ "</span>".toList

def WellFormed : Fragment → Prop
  | text s => IsContent s
  | wrapper cls s => cls ∈ classes ∧ IsContent s

def wrapper? : Fragment → Option (String × List Char)
  | text _ => none
  | wrapper cls s => some (cls, s)

/-- Whether a text consists of well-formed fragments, one after the other. -/
structure Compose (fs : List Fragment) (s : List Char) : Prop where
  wellFormed : ∀ f ∈ fs, f.WellFormed
  written : fs.flatMap written = s

def opening (cls : String) : List Char := "span class=\"".toList ++ cls.toList ++ ['"']

theorem opening_injective :
    Function.Injective fun w : String × List Char => (opening w.1, w.2) := by
  intro v w h
  obtain ⟨ho, ht⟩ := Prod.mk.inj h
  have hc : v.1.toList = w.1.toList := List.append_cancel_left (List.append_cancel_right ho)
  exact Prod.ext (String.toList_inj.mp hc) ht

theorem written_wrapper (cls : String) (s t : List Char) : (wrapper cls s).written ++ t =
    (Piece.tag (opening cls)).written ++
      (s ++ ((Piece.tag ('/' :: ['s', 'p', 'a', 'n'])).written ++ t)) := by
  have hs : "<span class=\"".toList = '<' :: "span class=\"".toList := by decide +kernel
  have hm : "\">".toList = ['"', '>'] := by decide +kernel
  have he : "</span>".toList = (Piece.tag ('/' :: ['s', 'p', 'a', 'n'])).written := by
    decide +kernel
  have hw : (wrapper cls s).written =
      "<span class=\"".toList ++ cls.toList ++ "\">".toList ++ s ++ "</span>".toList := rfl
  have ho : (Piece.tag (opening cls)).written =
      '<' :: ("span class=\"".toList ++ cls.toList ++ ['"']) ++ ['>'] := rfl
  rw [hw, ho, hs, hm, he]
  simp only [List.cons_append, List.append_assoc, List.nil_append]

/-- A reader that knows nothing of fragments finds the wrappers as the elements of the markup. -/
theorem Compose.elements {fs : List Fragment} {s : List Char} (h : Compose fs s) :
    elementsFrom (fun _ => true) none (pieces s) =
      (fs.filterMap wrapper?).map fun w => (opening w.1, w.2) := by
  obtain ⟨hf, rfl⟩ := h
  induction fs with
  | nil => rfl
  | cons f fs ih =>
    rw [List.forall_mem_cons] at hf
    cases f with
    | text t =>
      have ht : IsContent t := hf.1
      change elementsFrom _ none (pieces (t ++ fs.flatMap Fragment.written)) = _
      rw [pieces_append ht.lt_notMem, elementsFrom_chars]
      exact ih hf.2
    | wrapper cls t =>
      obtain ⟨hc, ht⟩ : cls ∈ classes ∧ IsContent t := hf.1
      have hgt : '>' ∉ opening cls := by
        have hall : ∀ cls ∈ classes, '>' ∉ opening cls := by decide
        exact hall cls hc
      have hend : '>' ∉ '/' :: ['s', 'p', 'a', 'n'] := by decide
      have hread := elementsFrom_element (fun _ => true) (opening cls) rfl t
        (pieces (fs.flatMap Fragment.written))
      rw [List.flatMap_cons, written_wrapper, pieces_tag hgt, pieces_append ht.lt_notMem,
        pieces_tag hend]
      exact hread.trans (congrArg _ (ih hf.2))

/-- However a text is cut into fragments, its wrappers are the same. -/
theorem Compose.wrappers_eq {fs gs : List Fragment} {s : List Char} (hf : Compose fs s)
    (hg : Compose gs s) : fs.filterMap wrapper? = gs.filterMap wrapper? :=
  opening_injective.list_map (hf.elements.symm.trans hg.elements)

end Fragment

end Markup

open Markup Fragment

def Span.fragment (x : Span) : Fragment :=
  if x.category = .plain then .text (escapeChars x.text.toList)
  else .wrapper x.category.name (escapeChars x.text.toList)

namespace Highlighter

/-- Whether markup is escaped text and wrappers of escaped text, and its wrappers, with their
classes and their decoded contents, are the classified ones among some spans. -/
structure Renders (spans : List Span) (s : List Char) : Prop where
  composed : ∃ fs, Compose fs s
  wrappers : ∀ fs, Compose fs s →
    (fs.filterMap wrapper?).map (fun w => (w.1, decode w.2)) =
      (spans.filter (·.category ≠ .plain)).map fun x => (x.category.name, .ok x.text.toList)

theorem wellFormed_fragment (x : Span) : x.fragment.WellFormed := by
  have ht := isContent_escapeChars x.text.toList
  unfold Span.fragment
  split
  · exact ht
  · rename_i hc
    refine ⟨?_, ht⟩
    cases hx : x.category with
    | plain => exact absurd hx hc
    | _ => decide

theorem written_fragment (x : Span) : x.fragment.written = x.markup.toList := by
  rw [Span.toList_markup, Span.fragment]
  split <;> rfl

theorem compose_markupOf (spans : List Span) :
    Compose (spans.map Span.fragment) (markupOf spans).toList where
  wellFormed := by
    intro f hf
    obtain ⟨x, _, rfl⟩ := List.mem_map.mp hf
    exact wellFormed_fragment x
  written := by
    induction spans with
    | nil => rfl
    | cons x xs ih =>
      rw [List.map_cons, List.flatMap_cons, ih, written_fragment, toList_markupOf_cons]

theorem wrappers_fragment (spans : List Span) :
    ((spans.map Span.fragment).filterMap wrapper?).map (fun w => (w.1, decode w.2)) =
      (spans.filter (·.category ≠ .plain)).map fun x => (x.category.name, .ok x.text.toList) := by
  induction spans with
  | nil => rfl
  | cons x xs ih =>
    rw [List.map_cons]
    by_cases hc : x.category = .plain
    · rw [Span.fragment, if_pos hc, List.filter_cons_of_neg (by simp [hc])]
      exact ih
    · rw [Span.fragment, if_neg hc, List.filter_cons_of_pos (by simp [hc]), List.map_cons,
        List.filterMap_cons_some (f := wrapper?) rfl, List.map_cons, decode_escapeChars, ih]

theorem renders_markupOf (spans : List Span) : Renders spans (markupOf spans).toList where
  composed := ⟨_, compose_markupOf spans⟩
  wrappers := by
    intro fs hf
    rw [hf.wrappers_eq (compose_markupOf spans), wrappers_fragment]

variable (h : Highlighter)

theorem renders_render (code : String) (language : Option String) :
    Renders (h.spans code language).value (h.render code language).value.toList := by
  rw [render_value]
  exact renders_markupOf _

/-- Rendered markup is escaped text and wrappers, and the wrappers are the classified spans of the
text. The same holds for what highlighting makes of any text, with the spans of what is recovered
from it, exactly if no decimal reference in it, behind its tags, has more digits than a number may
have. -/
theorem render_fragments (language : Option String) :
    (∀ code, Renders (h.spans code language).value (h.render code language).value.toList) ∧
    ∀ x, (∃ source y, recover x = .ok source ∧ h.highlight x language = .ok y ∧
        Renders (h.spans source language).value y.value.toList) ↔
      ¬ HasOversizedReference (dropTags x.toList) := by
  refine ⟨fun code => h.renders_render code language, fun x => ?_⟩
  rw [← exists_recover_iff]
  constructor
  · rintro ⟨source, y, hx, -⟩
    exact ⟨source, hx⟩
  · rintro ⟨source, hx⟩
    exact ⟨source, _, hx, (highlight_of_recover h language hx).1, h.renders_render source language⟩

/-- Nothing is made of a reference with one digit too many. -/
theorem highlight_fragments_fails :
    ¬ ∃ source y, recover (onesReference 4301) = .ok source ∧
      standard.highlight (onesReference 4301) (some "python") = .ok y ∧
      Renders (standard.spans source (some "python")).value y.value.toList := by
  rintro ⟨source, y, -, hy, -⟩
  exact highlight_onesReference standard (some "python") (n := 4301) (by decide) ⟨y, hy⟩

end Highlighter

end FencedChat
