import FencedChat.Extension
import Mathlib.Data.List.Induction

/-!
Extensions with overrides. The last override for a tag decides, also if nothing is left of it behind
its dots: then it stands in the way of the overrides before it and of the table of known tags, and
the tag has the usual extension.
-/

namespace FencedChat.ExtensionResolver

/-- Whether an override is put into the table under the key of a tag. -/
def Names (tag : String) (entry : String × String) : Prop :=
  entry.1 ≠ "" ∧ entry.2 ≠ "" ∧ extensionKey entry.1 = extensionKey tag

/-- Whether something is left of the extension of an override behind its dots. -/
def Carries (entry : String × String) : Prop := withoutLeadingDots entry.2 ≠ ""

instance (tag : String) : DecidablePred (Names tag) := fun _ =>
  inferInstanceAs (Decidable (_ ∧ _ ∧ _))

instance : DecidablePred Carries := fun _ => inferInstanceAs (Decidable (_ ≠ _))

def last? (overrides : Listing String) (tag : String) : Option (String × String) :=
  (overrides.filter (Names tag)).getLast?

def lastCarrying? (overrides : Listing String) (tag : String) : Option (String × String) :=
  (overrides.filter fun e => Names tag e ∧ Carries e).getLast?

/-- What the last override that carries an extension makes of a tag, and the table of known tags if
there is none. -/
def carried (overrides : Listing String) : Option String → String
  | none => extensionOf none
  | some tag =>
    match lastCarrying? overrides tag with
    | some e => withoutLeadingDots e.2
    | none => extensionOf (some tag)

variable {overrides : Listing String} {tag : String} {e : String × String}

theorem head?_withoutLeadingDots (s : String) : (withoutLeadingDots s).toList.head? ≠ some '.' := by
  intro h
  have hdots := List.head?_dropWhile_not (· == '.') s.toList
  rw [withoutLeadingDots, String.toList_ofList] at h
  rw [h] at hdots
  simp at hdots

/-- One more override is put over the table that the others lead to. -/
theorem table_concat (overrides : Listing String) (e : String × String) :
    (ofOverrides (overrides ++ [e])).table =
      if e.1 = "" ∨ e.2 = "" then (ofOverrides overrides).table
      else Listing.put (extensionKey e.1) (withoutLeadingDots e.2)
        (ofOverrides overrides).table := by
  simp only [ofOverrides, List.foldl_append, List.foldl_cons, List.foldl_nil]

theorem last?_concat (overrides : Listing String) (tag : String) (e : String × String) :
    last? (overrides ++ [e]) tag = if Names tag e then some e else last? overrides tag := by
  rw [last?, List.filter_append]
  by_cases h : Names tag e
  · simp [h]
  · simp [h, last?]

/-- The table under the key of a tag holds what is left of the last override for it. -/
theorem lookup_ofOverrides (overrides : Listing String) (tag : String) :
    List.lookup (extensionKey tag) (ofOverrides overrides).table =
      ((last? overrides tag).map fun e => withoutLeadingDots e.2).or
        (List.lookup (extensionKey tag) extensionTable) := by
  induction overrides using List.reverseRecOn with
  | nil => simp only [ofOverrides, List.foldl_nil, last?, List.filter_nil, List.getLast?_nil,
      Option.map_none, Option.none_or]
  | append_singleton overrides e ih =>
    rw [table_concat, last?_concat]
    by_cases hempty : e.1 = "" ∨ e.2 = ""
    · have hn : ¬ Names tag e := fun h => hempty.elim h.1 h.2.1
      rw [if_pos hempty, if_neg hn, ih]
    · obtain ⟨h₁, h₂⟩ := not_or.mp hempty
      rw [if_neg hempty, Listing.lookup_put]
      by_cases hkey : extensionKey tag = extensionKey e.1
      · rw [if_pos hkey, if_pos ⟨h₁, h₂, hkey.symm⟩, Option.map_some, Option.some_or]
      · rw [if_neg hkey, if_neg fun h => hkey h.2.2.symm, ih]

/-- If the last override carries an extension, it is the last that does. -/
theorem lastCarrying?_of_last? (h : last? overrides tag = some e) (hc : Carries e) :
    lastCarrying? overrides tag = some e := by
  obtain ⟨before, hb⟩ := List.getLast?_eq_some_iff.mp h
  have hf : (overrides.filter fun e => Names tag e ∧ Carries e) =
      (before ++ [e]).filter (Carries ·) := by
    rw [← hb, List.filter_filter]
    apply List.filter_congr
    intro x _
    rw [Bool.eq_iff_iff]
    simp [and_comm]
  rw [lastCarrying?, hf, List.filter_append]
  simp [hc]

theorem lastCarrying?_eq_none (h : last? overrides tag = none) :
    lastCarrying? overrides tag = none := by
  rw [last?, List.getLast?_eq_none_iff, List.filter_eq_nil_iff] at h
  rw [lastCarrying?, List.getLast?_eq_none_iff, List.filter_eq_nil_iff]
  intro x hx hc
  exact h x hx (by simpa using (of_decide_eq_true hc).1)

/-- Whether a text can stand behind the dot of a filename. -/
def IsExtension (s : String) : Prop := s ≠ "" ∧ s.toList.head? ≠ some '.'

instance : DecidablePred IsExtension := fun _ => inferInstanceAs (Decidable (_ ∧ _))

theorem isExtension_of_mem : ∀ p ∈ extensionTable, IsExtension p.2 := by decide

theorem isExtension_usual : IsExtension usualExtension := by decide

theorem isExtension_of_lookup {k s : String} (h : List.lookup k extensionTable = some s) :
    IsExtension s :=
  isExtension_of_mem (k, s) (Listing.mem_of_lookup h)

theorem extensionOf_of_ne_empty (htag : tag ≠ "") :
    extensionOf (some tag) = (List.lookup (extensionKey tag) extensionTable).getD usualExtension :=
  if_neg htag

theorem isExtension_extensionOf (tag : String) : IsExtension (extensionOf (some tag)) := by
  by_cases htag : tag = ""
  · subst htag
    exact isExtension_usual
  · rw [extensionOf_of_ne_empty htag]
    cases ht : List.lookup (extensionKey tag) extensionTable with
    | none => exact isExtension_usual
    | some s => exact isExtension_of_lookup ht

theorem resolve_empty (r : ExtensionResolver) : r.resolve (some "") = usualExtension := rfl

theorem resolve_of_ne_empty (r : ExtensionResolver) (htag : tag ≠ "") :
    r.resolve (some tag) =
      match List.lookup (extensionKey tag) r.table with
      | none => usualExtension
      | some s => if s = "" then usualExtension else s :=
  if_neg htag

/-- Without an override a tag has the extension of the table. -/
theorem resolve_of_last?_eq_none (htag : tag ≠ "") (h : last? overrides tag = none) :
    (ofOverrides overrides).resolve (some tag) = extensionOf (some tag) := by
  rw [resolve_of_ne_empty _ htag, lookup_ofOverrides, h, extensionOf_of_ne_empty htag,
    Option.map_none, Option.none_or]
  cases ht : List.lookup (extensionKey tag) extensionTable with
  | none => rfl
  | some s => exact if_neg (isExtension_of_lookup ht).1

/-- The last override decides, by the usual extension if nothing is left of it. -/
theorem resolve_of_last? (htag : tag ≠ "") (h : last? overrides tag = some e) :
    (ofOverrides overrides).resolve (some tag) =
      if withoutLeadingDots e.2 = "" then usualExtension else withoutLeadingDots e.2 := by
  rw [resolve_of_ne_empty _ htag, lookup_ofOverrides, h, Option.map_some, Option.some_or]

theorem isExtension_resolve (overrides : Listing String) (tag : Option String) :
    IsExtension ((ofOverrides overrides).resolve tag) := by
  cases tag with
  | none => exact isExtension_usual
  | some tag =>
    by_cases htag : tag = ""
    · subst htag
      exact isExtension_usual
    · cases h : last? overrides tag with
      | none =>
        rw [resolve_of_last?_eq_none htag h]
        exact isExtension_extensionOf tag
      | some e =>
        rw [resolve_of_last? htag h]
        split
        · exact isExtension_usual
        · exact ⟨‹_›, head?_withoutLeadingDots e.2⟩

theorem carried_of_last?_eq_none (h : last? overrides tag = none) :
    carried overrides (some tag) = extensionOf (some tag) := by
  simp only [carried, lastCarrying?_eq_none h]

theorem carried_of_last? (h : last? overrides tag = some e) (hc : Carries e) :
    carried overrides (some tag) = withoutLeadingDots e.2 := by
  simp only [carried, lastCarrying?_of_last? h hc]

/-- What a tag is resolved to can always stand behind a dot. It is what the last override carrying
an extension says, or the table of known tags if there is none, but for two cases: the empty tag,
which no override reaches, and a last override of dots only. In these it is the usual extension. -/
theorem resolve_eq_carried_iff (overrides : Listing String) (tag : Option String) :
    let extension := (ofOverrides overrides).resolve tag
    extension ≠ "" ∧ extension.toList.head? ≠ some '.' ∧
      (extension = carried overrides tag ↔
        ∀ t ∈ tag, (t = "" ∨ ∃ e ∈ last? overrides t, withoutLeadingDots e.2 = "") →
          carried overrides tag = usualExtension) := by
  obtain ⟨hne, hdot⟩ := isExtension_resolve overrides tag
  refine ⟨hne, hdot, ?_⟩
  cases tag with
  | none => exact iff_of_true rfl (fun _ h => nomatch h)
  | some tag =>
    simp only [Option.mem_def, Option.some.injEq, forall_eq']
    by_cases htag : tag = ""
    · rw [htag, resolve_empty]
      exact ⟨fun h _ => h.symm, fun h => (h (.inl rfl)).symm⟩
    · cases h : last? overrides tag with
      | none =>
        rw [resolve_of_last?_eq_none htag h, carried_of_last?_eq_none h]
        exact iff_of_true rfl (by simp [htag])
      | some e =>
        rw [resolve_of_last? htag h]
        by_cases hleft : withoutLeadingDots e.2 = ""
        · rw [if_pos hleft]
          exact ⟨fun he _ => he.symm, fun he => (he (.inr ⟨e, rfl, hleft⟩)).symm⟩
        · rw [if_neg hleft, carried_of_last? h hleft]
          refine iff_of_true rfl ?_
          rintro (he | ⟨e', he', hempty⟩)
          · exact absurd he htag
          · cases he'
            exact absurd hempty hleft

/-- An override that consists of a dot hides the entry of the table, and a blank one is out of reach
for the empty tag. -/
theorem resolve_ne_carried :
    (ofOverrides [("python", ".")]).resolve (some "python") = "txt" ∧
      carried [("python", ".")] (some "python") = "py" ∧
      (ofOverrides [(" ", "x")]).resolve (some "") = "txt" ∧
      carried [(" ", "x")] (some "") = "x" := by
  decide +kernel

end FencedChat.ExtensionResolver
