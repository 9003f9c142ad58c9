import FencedChat.Proofs.Grammar.Registry
import FencedChat.Proofs.Text.LowerCase

/-!
How the two tables of a registry fit together. They agree as long as no grammar has a blank tag and
each tag of a grammar whose name is registered again is taken over by a later grammar. A blank tag
is listed but never found, and a tag that is not taken over still gives the grammar that was
replaced.
-/

namespace FencedChat

namespace Registry

variable {r : Registry} {gs : List Grammar} {g : Grammar} {tag t : String}

/-- Whether every listed tag is found and gives one of the grammars listed. -/
structure Coherent (r : Registry) : Prop where
  contains : ∀ tag ∈ r.tags, r.contains tag = true
  listed : ∀ tag ∈ r.tags, ∃ g ∈ r.grammars, r.get? tag = some g

/-- Whether a grammar of a history has a tag of blanks only. -/
def HasBlankTag (gs : List Grammar) : Prop := ∃ g ∈ gs, ∃ t ∈ g.tags, normalTag t = ""

/-- Whether each tag of a grammar whose name is registered again is also one of a grammar behind
it. -/
def TakenOver (gs : List Grammar) : Prop :=
  ∀ before g after, gs = before ++ g :: after → (∃ q ∈ after, q.name = g.name) →
    ∀ t ∈ g.tags, ∃ q ∈ after, q.AnswersTo t

@[simp] theorem normalTag_normalTag (tag : String) : normalTag (normalTag tag) = normalTag tag := by
  simp [normalTag]

theorem mem_tags_iff_lookup : tag ∈ r.tags ↔ ∃ g, List.lookup tag r.byTag = some g := by
  rw [← Option.isSome_iff_exists, Listing.lookup_isSome_iff]
  rfl

/-- The tags listed are those of all grammars ever registered, in the form in which tags are
compared. -/
theorem mem_tags_ofList : tag ∈ (ofList gs).tags ↔ ∃ g ∈ gs, ∃ t ∈ g.tags, normalTag t = tag := by
  simp only [mem_tags_iff_lookup, lookup_byTag_ofList]
  exact exists_latest_iff

theorem normalTag_of_mem_tags_ofList (h : tag ∈ (ofList gs).tags) : normalTag tag = tag := by
  obtain ⟨_, _, t, _, rfl⟩ := mem_tags_ofList.mp h
  exact normalTag_normalTag t

theorem contains_iff_of_mem_tags (h : tag ∈ (ofList gs).tags) :
    (ofList gs).contains tag = true ↔ tag ≠ "" := by
  obtain ⟨g, hg⟩ := mem_tags_iff_lookup.mp h
  rw [contains, get?, normalTag_of_mem_tags_ofList h]
  split
  · rename_i he
    simp [he]
  · rename_i he
    simp [he, hg]

theorem forall_contains_iff :
    (∀ tag ∈ (ofList gs).tags, (ofList gs).contains tag = true) ↔ ¬ HasBlankTag gs := by
  rw [HasBlankTag, ← mem_tags_ofList]
  constructor
  · intro h hblank
    exact (contains_iff_of_mem_tags hblank).mp (h "" hblank) rfl
  · intro h tag htag
    refine (contains_iff_of_mem_tags htag).mpr ?_
    rintro rfl
    exact h htag

/-- What a tag gives is also what its listed form gives, unless that is empty. -/
theorem get?_normalTag (h : r.get? tag = some g) (hne : normalTag tag ≠ "") :
    normalTag tag ∈ r.tags ∧ r.get? (normalTag tag) = some g := by
  unfold get? at h
  split at h
  · simp at h
  · rw [get?, if_neg hne, normalTag_normalTag]
    exact ⟨mem_tags_iff_lookup.mpr ⟨g, h⟩, h⟩

theorem exists_tag_ne_empty (t : String) : ∃ tag, tag ≠ "" ∧ normalTag tag = normalTag t := by
  by_cases ht : t = ""
  · exact ⟨" ", by decide, by rw [ht]; decide +kernel⟩
  · exact ⟨t, ht, rfl⟩

theorem answersTo_congr (h : normalTag tag = normalTag t) : g.AnswersTo tag ↔ g.AnswersTo t := by
  rw [Grammar.AnswersTo, Grammar.AnswersTo, h]

/-- Only listed grammars are found exactly if every tag of a replaced grammar is taken over. -/
theorem found_listed_iff :
    (∀ tag g, (ofList gs).get? tag = some g → g ∈ (ofList gs).grammars) ↔ TakenOver gs := by
  constructor
  · rintro h before g after rfl ⟨q, hq, hname⟩ t ht
    by_contra hnone
    have hnone : ∀ p ∈ after, ¬ p.AnswersTo t := fun p hp ha => hnone ⟨p, hp, ha⟩
    have hg : g.AnswersTo t := ⟨t, Grammar.mem_tags.mp ht, rfl⟩
    -- the tag still gives the grammar, which so must stand behind itself once more
    obtain ⟨tag, hne, htag⟩ := exists_tag_ne_empty t
    have hfound : (ofList (before ++ g :: after)).get? tag = some g := by
      refine get?_ofList.mpr ⟨hne, before, after, rfl, (answersTo_congr htag).mpr hg,
        fun p hp ha => ?_⟩
      exact hnone p hp ((answersTo_congr htag).mp ha)
    have hlast := mem_grammars_ofList.mp (h tag g hfound)
    rw [← List.singleton_append, ← List.append_assoc] at hlast
    exact hnone g (hlast.of_append hq hname).mem hg
  · intro h tag g hfound
    obtain ⟨-, before, after, rfl, ⟨t, ht, htag⟩, hafter⟩ := get?_ofList.mp hfound
    refine mem_grammars_ofList.mpr ⟨before, after, rfl, rfl, fun q hq hname => ?_⟩
    obtain ⟨p, hp, ha⟩ := h before g after rfl ⟨q, hq, hname⟩ t (Grammar.mem_tags.mpr ht)
    exact hafter p hp ((answersTo_congr htag).mp ha)

/-- After any registrations the listed tags are found and give listed grammars exactly if no grammar
has a blank tag and each tag of a grammar whose name is registered again is taken over by a later
one. A blank tag is all that keeps a listed tag from being found, and a tag that is not taken over
is all that makes a tag give a grammar that was replaced. -/
theorem coherent_iff (gs : List Grammar) :
    ((ofList gs).Coherent ↔ ¬ HasBlankTag gs ∧ TakenOver gs) ∧
    ((∀ tag ∈ (ofList gs).tags, (ofList gs).contains tag = true) ↔ ¬ HasBlankTag gs) ∧
    ((∀ tag g, (ofList gs).get? tag = some g → g ∈ (ofList gs).grammars) ↔ TakenOver gs) := by
  refine ⟨⟨?coherent, ?fits⟩, forall_contains_iff, found_listed_iff⟩
  case coherent =>
    rintro ⟨hcontains, hlisted⟩
    have hblank := forall_contains_iff.mp hcontains
    refine ⟨hblank, found_listed_iff.mp fun tag g hg => ?_⟩
    have hne : normalTag tag ≠ "" := by
      intro he
      obtain ⟨-, hlast⟩ := get?_ofList.mp hg
      obtain ⟨t, ht, htag⟩ := hlast.holds
      exact hblank ⟨g, hlast.mem, t, Grammar.mem_tags.mpr ht, htag.trans he⟩
    obtain ⟨hmem, hnormal⟩ := get?_normalTag hg hne
    obtain ⟨q, hq, hget⟩ := hlisted _ hmem
    obtain rfl := Option.some.inj (hnormal.symm.trans hget)
    exact hq
  case fits =>
    rintro ⟨hblank, htaken⟩
    refine ⟨forall_contains_iff.mpr hblank, fun tag htag => ?_⟩
    obtain ⟨g, hg⟩ := Option.isSome_iff_exists.mp (forall_contains_iff.mpr hblank tag htag)
    exact ⟨g, found_listed_iff.mpr htaken tag g hg, hg⟩

def semicolonRule : Rule :=
  ⟨.operator, .text ";", Priority.operator, by decide, by decide, by decide⟩

def tagged : Grammar := .ofRules "a" [semicolonRule] ["b"]

/-- A language of the same name with one more rule, and without the other tag. -/
def untagged : Grammar := .ofRules "a" [semicolonRule, semicolonRule] []

def blankTagged : Grammar := .ofRules "a" [semicolonRule] [" "]

/-- A tag that a language had gives the grammar that was replaced, and a blank tag gives none. -/
theorem not_coherent_replaced :
    ((ofList [tagged, untagged]).get? "b" = some tagged ∧ tagged.name = untagged.name ∧
      tagged ∉ (ofList [tagged, untagged]).grammars) ∧
    ("" ∈ (ofList [blankTagged]).tags ∧ (ofList [blankTagged]).contains "" = false) ∧
    ¬ (ofList [tagged, untagged]).Coherent ∧ ¬ (ofList [blankTagged]).Coherent := by
  have hget : (ofList [tagged, untagged]).get? "b" = some tagged :=
    get?_ofList.mpr ⟨by decide, [], [untagged], rfl, by decide +kernel, by decide +kernel⟩
  have hreplaced : tagged ∉ (ofList [tagged, untagged]).grammars := by
    intro h
    have hlast : Latest (·.name = tagged.name) ([tagged] ++ [untagged]) tagged :=
      mem_grammars_ofList.mp h
    have he := List.mem_singleton.mp (hlast.of_append List.mem_cons_self rfl).mem
    exact absurd (congrArg Grammar.aliases he) (by decide +kernel)
  have hb : "b" ∈ (ofList [tagged, untagged]).tags :=
    mem_tags_ofList.mpr ⟨tagged, List.mem_cons_self, by decide +kernel⟩
  have hblank : "" ∈ (ofList [blankTagged]).tags :=
    mem_tags_ofList.mpr ⟨blankTagged, List.mem_cons_self, by decide +kernel⟩
  refine ⟨⟨hget, rfl, hreplaced⟩, ⟨hblank, rfl⟩, fun h => ?_, fun h => ?_⟩
  · obtain ⟨g, hg, hfound⟩ := h.listed "b" hb
    obtain rfl := Option.some.inj (hget.symm.trans hfound)
    exact hreplaced hg
  · exact (contains_iff_of_mem_tags hblank).mp (h.contains "" hblank) rfl

end Registry

end FencedChat
