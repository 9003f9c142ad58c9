import FencedChat.Markup.Escape
import Mathlib.Data.List.Basic

/-!
What escaped text cannot hold. Every ampersand of it starts one of the references that escaping
writes; element content holds no brackets, and the value of an attribute holds no quotes either.
-/

namespace FencedChat.Markup

/-- The references that escaping writes, behind their ampersand. -/
def references : List (List Char) :=
  [['a', 'm', 'p', ';'], ['l', 't', ';'], ['g', 't', ';'], ['q', 'u', 'o', 't', ';'],
    ['#', 'x', '2', '7', ';']]

def contentReferences : List (List Char) := [['a', 'm', 'p', ';'], ['l', 't', ';'], ['g', 't', ';']]

/-- Every ampersand of the text starts one of the references. -/
def Escaped (s : List Char) : Prop :=
  ∀ before after, s = before ++ '&' :: after → ∃ w ∈ references, w <+: after

/-- Every ampersand of the text starts one of some references. -/
def EscapedBy (refs : List (List Char)) (s : List Char) : Prop :=
  ∀ before after, s = before ++ '&' :: after → ∃ w ∈ refs, w <+: after

/-- Neither brackets nor quotes stand in the text, so the value of an attribute can hold it. -/
def Clean (s : List Char) : Prop := ∀ c ∈ s, c ∉ ['<', '>', '"', '\'']

variable {s t : List Char}

section

variable {refs : List (List Char)}

theorem EscapedBy.append (hs : EscapedBy refs s) (ht : EscapedBy refs t) :
    EscapedBy refs (s ++ t) := by
  intro before after h
  rcases List.append_eq_append_iff.mp h with ⟨u, rfl, hu⟩ | ⟨u, rfl, hu⟩
  · exact ht u after hu
  · cases u with
    | nil => exact ht [] after hu.symm
    | cons c u =>
      obtain ⟨rfl, rfl⟩ := List.cons.inj hu
      obtain ⟨w, hw, hp⟩ := hs before u rfl
      exact ⟨w, hw, hp.trans (List.prefix_append u t)⟩

theorem escapedBy_of_notMem (h : '&' ∉ s) : EscapedBy refs s := by
  rintro before after rfl
  simp at h

theorem escapedBy_reference {w : List Char} (hw : w ∈ refs) (hn : '&' ∉ w) :
    EscapedBy refs ('&' :: w) := by
  intro before after h
  cases before with
  | nil => exact ⟨w, hw, (List.cons.inj h).2 ▸ List.prefix_rfl⟩
  | cons b before => exact absurd ((List.cons.inj h).2 ▸ by simp) hn

theorem escapedBy_flatMap {f : Char → List Char} (hf : ∀ c, EscapedBy refs (f c)) (s : List Char) :
    EscapedBy refs (s.flatMap f) := by
  induction s with
  | nil => exact escapedBy_of_notMem (by simp)
  | cons c s ih => exact (hf c).append ih

end

theorem escapedBy_escapeChar (c : Char) : EscapedBy contentReferences (escapeChar c) := by
  unfold escapeChar
  split
  · exact escapedBy_reference (w := ['a', 'm', 'p', ';']) (by decide) (by decide)
  · exact escapedBy_reference (w := ['l', 't', ';']) (by decide) (by decide)
  · exact escapedBy_reference (w := ['g', 't', ';']) (by decide) (by decide)
  · rename_i h _ _
    exact escapedBy_of_notMem fun hm => h (List.mem_singleton.mp hm).symm

theorem EscapedBy.escaped (h : EscapedBy contentReferences s) : Escaped s := by
  intro before after hs
  obtain ⟨w, hw, hp⟩ := h before after hs
  exact ⟨w, List.mem_append_left [['q', 'u', 'o', 't', ';'], ['#', 'x', '2', '7', ';']] hw, hp⟩

theorem Escaped.append (hs : Escaped s) (ht : Escaped t) : Escaped (s ++ t) :=
  EscapedBy.append hs ht

theorem escaped_of_notMem (h : '&' ∉ s) : Escaped s := escapedBy_of_notMem h

theorem escaped_reference {w : List Char} (hw : w ∈ references) (hn : '&' ∉ w) :
    Escaped ('&' :: w) :=
  escapedBy_reference hw hn

theorem escaped_escapeChar (c : Char) : Escaped (escapeChar c) := (escapedBy_escapeChar c).escaped

theorem escaped_escapeAttributeChar (c : Char) : Escaped (escapeAttributeChar c) := by
  unfold escapeAttributeChar
  split
  · exact escaped_reference (w := ['q', 'u', 'o', 't', ';']) (by decide) (by decide)
  · exact escaped_reference (w := ['#', 'x', '2', '7', ';']) (by decide) (by decide)
  · exact escaped_escapeChar c

theorem clean_escapeAttributeChar (c : Char) : Clean (escapeAttributeChar c) := by
  unfold escapeAttributeChar
  split
  · simp [Clean]
  · simp [Clean]
  · rename_i hq ha
    unfold escapeChar
    split
    · simp [Clean]
    · simp [Clean]
    · simp [Clean]
    · rename_i hl hg
      intro d hd
      obtain rfl := List.mem_singleton.mp hd
      simp only [List.mem_cons, List.not_mem_nil, or_false, not_or]
      exact ⟨hl, hg, hq, ha⟩

theorem clean_escapeAttribute (v : String) : Clean (escapeAttribute v).toList := by
  intro c hc
  rw [escapeAttribute, String.toList_ofList, List.mem_flatMap] at hc
  obtain ⟨d, _, hd⟩ := hc
  exact clean_escapeAttributeChar d c hd

theorem gt_notMem_escapeChars (s : List Char) : '>' ∉ escapeChars s := by
  intro h
  obtain ⟨c, _, hc⟩ := List.mem_flatMap.mp h
  unfold escapeChar at hc
  split at hc
  · revert hc
    decide
  · revert hc
    decide
  · revert hc
    decide
  · rename_i hgt
    exact hgt (List.mem_singleton.mp hc).symm

theorem escaped_escapeChars (s : List Char) : Escaped (escapeChars s) :=
  escapedBy_flatMap escaped_escapeChar s

theorem escaped_escapeAttribute (v : String) : Escaped (escapeAttribute v).toList := by
  rw [escapeAttribute, String.toList_ofList]
  exact escapedBy_flatMap escaped_escapeAttributeChar v.toList

end FencedChat.Markup
