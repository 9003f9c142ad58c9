import FencedChat.Grammar.Registry
import Mathlib.Data.List.Induction

/-!
What a registry answers after any history of registrations. A tag has the grammar that was
registered last among those that answer to it. The grammars are listed once by name, in the order in
which the names came up, each as it was registered last.
-/

namespace FencedChat

namespace Listing

variable {α : Type} {key : String} {value : α} {l : Listing α}

def keys (l : Listing α) : List String := l.map Prod.fst

@[simp] theorem keys_nil : (keys ([] : Listing α)) = [] := rfl

@[simp] theorem keys_cons (p : String × α) (l : Listing α) : keys (p :: l) = p.1 :: keys l := rfl

theorem keys_put (key : String) (value : α) (l : Listing α) :
    (put key value l).keys = if key ∈ l.keys then l.keys else l.keys ++ [key] := by
  induction l with
  | nil => simp [put]
  | cons p rest ih =>
    obtain ⟨k, v⟩ := p
    by_cases hk : k = key
    · simp [put, hk]
    · have hne : ¬ key = k := Ne.symm hk
      simp only [put, hk, if_false, keys_cons, ih, List.mem_cons, hne, false_or]
      split
      · rfl
      · rfl

theorem nodup_keys_put (h : l.keys.Nodup) : (put key value l).keys.Nodup := by
  rw [keys_put]
  split
  · exact h
  · rename_i hn
    exact List.nodup_append.mpr ⟨h, List.pairwise_singleton _ key, by
      rintro k hk _ hm rfl
      exact hn (List.mem_singleton.mp hm ▸ hk)⟩

theorem lookup_isSome_iff {k : String} : (List.lookup k l).isSome ↔ k ∈ l.keys := by
  induction l with
  | nil => simp
  | cons p rest ih =>
    obtain ⟨q, v⟩ := p
    rw [lookup_cons_eq, keys_cons, List.mem_cons, ← ih]
    split
    · rename_i h
      simp [h]
    · rename_i h
      simp [h]

/-- A pair of a listing is what its key gives. -/
theorem mem_iff_lookup (h : l.keys.Nodup) : (key, value) ∈ l ↔ List.lookup key l = some value := by
  induction l with
  | nil => simp
  | cons p rest ih =>
    obtain ⟨k, v⟩ := p
    obtain ⟨hk, hrest⟩ := List.nodup_cons.mp h
    rw [lookup_cons_eq, List.mem_cons, Prod.mk.injEq, ih hrest]
    split
    · rename_i he
      subst he
      have hnone : ¬ List.lookup key rest = some value := by
        intro hl
        exact hk (lookup_isSome_iff.mp (by rw [hl]; rfl))
      simp [hnone, eq_comm]
    · rename_i he
      simp [he]

end Listing

/-- Whether a grammar is the last of a history with a property. -/
def Latest (P : Grammar → Prop) (history : List Grammar) (g : Grammar) : Prop :=
  ∃ before after, history = before ++ g :: after ∧ P g ∧ ∀ q ∈ after, ¬ P q

section Latest

variable {P : Grammar → Prop} {gs : List Grammar} {g q : Grammar}

theorem not_latest_nil : ¬ Latest P [] g := by
  rintro ⟨before, after, h, -⟩
  simp at h

theorem Latest.mem (h : Latest P gs g) : g ∈ gs := by
  obtain ⟨before, after, rfl, -⟩ := h
  simp

theorem Latest.holds (h : Latest P gs g) : P g := by
  obtain ⟨_, _, _, hg, _⟩ := h
  exact hg

/-- The last of a history with a property stands among the later grammars if one of these has it. -/
theorem Latest.of_append {ps : List Grammar} (h : Latest P (gs ++ ps) g) (hq : q ∈ ps) (hp : P q) :
    Latest P ps g := by
  obtain ⟨before, after, he, hg, hafter⟩ := h
  rcases List.append_eq_append_iff.mp he with ⟨c, rfl, hps⟩ | ⟨c, rfl, hc⟩
  · exact ⟨c, after, hps, hg, hafter⟩
  · cases c with
    | nil => exact ⟨[], after, hc.symm, hg, hafter⟩
    | cons p c =>
      obtain ⟨rfl, rfl⟩ := List.cons.inj hc
      exact absurd hp (hafter q (List.mem_append_right c hq))

theorem latest_concat :
    Latest P (gs ++ [q]) g ↔ P q ∧ g = q ∨ ¬ P q ∧ Latest P gs g := by
  constructor
  · rintro ⟨before, after, h, hg, hafter⟩
    rcases List.eq_nil_or_concat after with rfl | ⟨after, p, rfl⟩
    · obtain ⟨-, he⟩ := List.append_inj' h rfl
      obtain rfl := List.singleton_inj.mp he
      exact .inl ⟨hg, rfl⟩
    · rw [List.concat_eq_append, ← List.cons_append, ← List.append_assoc] at h
      obtain ⟨rfl, he⟩ := List.append_inj' h rfl
      obtain rfl := List.singleton_inj.mp he
      rw [List.concat_eq_append] at hafter
      refine .inr ⟨hafter q (by simp), before, after, rfl, hg, fun r hr => ?_⟩
      exact hafter r (List.mem_append_left [q] hr)
  · rintro (⟨hq, rfl⟩ | ⟨hq, before, after, rfl, hg, hafter⟩)
    · exact ⟨gs, [], rfl, hq, by simp⟩
    · refine ⟨before, after ++ [q], by simp, hg, ?_⟩
      rw [List.forall_mem_append]
      exact ⟨hafter, by simpa using hq⟩

/-- What each new grammar with a property takes over and each other one leaves is the last with
it. -/
theorem eq_some_iff_latest [DecidablePred P] {f : List Grammar → Option Grammar}
    (hnil : f [] = none)
    (hconcat : ∀ gs q, f (gs ++ [q]) = if P q then some q else f gs) (gs : List Grammar)
    (g : Grammar) :
    f gs = some g ↔ Latest P gs g := by
  induction gs using List.reverseRecOn with
  | nil => simp [hnil, not_latest_nil]
  | append_singleton gs q ih =>
    rw [hconcat, latest_concat]
    split
    · rename_i hq
      simp [hq, eq_comm]
    · rename_i hq
      simp [hq, ih]

theorem exists_latest_iff [DecidablePred P] : (∃ g, Latest P gs g) ↔ ∃ g ∈ gs, P g := by
  constructor
  · rintro ⟨g, h⟩
    exact ⟨g, h.mem, h.holds⟩
  · induction gs using List.reverseRecOn with
    | nil => simp
    | append_singleton gs q ih =>
      rintro ⟨g, hg, hp⟩
      by_cases hq : P q
      · exact ⟨q, latest_concat.mpr (.inl ⟨hq, rfl⟩)⟩
      · have hne : g ≠ q := fun he => hq (he ▸ hp)
        have hgs : g ∈ gs := by simpa [hne] using hg
        obtain ⟨p, hlast⟩ := ih ⟨g, hgs, hp⟩
        exact ⟨p, latest_concat.mpr (.inr ⟨hq, hlast⟩)⟩

end Latest

/-- Whether a grammar answers to a tag: its name or one of its aliases is the tag, without the
blanks around them and in lower case. -/
def Grammar.AnswersTo (g : Grammar) (tag : String) : Prop :=
  ∃ t ∈ g.name :: g.aliases, Registry.normalTag t = Registry.normalTag tag

instance (g : Grammar) (tag : String) : Decidable (g.AnswersTo tag) :=
  inferInstanceAs (Decidable (∃ t ∈ g.name :: g.aliases, _))

theorem Grammar.mem_tags {g : Grammar} {t : String} : t ∈ g.tags ↔ t ∈ g.name :: g.aliases := by
  rw [tags, List.mem_eraseDups]

namespace Registry

variable {r : Registry} {gs : List Grammar} {g q : Grammar} {key tag : String}

theorem ofList_concat (gs : List Grammar) (g : Grammar) :
    ofList (gs ++ [g]) = (ofList gs).register g := by
  simp [ofList]

/-- A grammar takes over the keys of its tags and leaves all others, whatever the order of the
tags. -/
theorem lookup_put_tags (tags : List String) (l : Listing Grammar) :
    List.lookup key (tags.foldl (fun l tag => Listing.put (normalTag tag) g l) l) =
      if ∃ t ∈ tags, normalTag t = key then some g else List.lookup key l := by
  induction tags generalizing l with
  | nil => simp
  | cons t tags ih =>
    rw [List.foldl_cons, ih, Listing.lookup_put]
    by_cases ht : normalTag t = key
    · simp [ht]
    · have hne : ¬ key = normalTag t := Ne.symm ht
      simp [ht, hne]

theorem lookup_byTag_register (r : Registry) (g : Grammar) (key : String) :
    List.lookup key (r.register g).byTag =
      if ∃ t ∈ g.tags, normalTag t = key then some g else List.lookup key r.byTag := by
  rw [register, lookup_put_tags]

theorem lookup_byName_register (r : Registry) (g : Grammar) (name : String) :
    List.lookup name (r.register g).byName =
      if g.name = name then some g else List.lookup name r.byName := by
  simp only [register, Listing.lookup_put, eq_comm]

/-- Every grammar is listed under its own name, and no name twice. -/
structure Named (r : Registry) : Prop where
  nodup : r.byName.keys.Nodup
  own : ∀ p ∈ r.byName, p.1 = p.2.name

theorem Named.register (h : r.Named) (g : Grammar) : (r.register g).Named where
  nodup := Listing.nodup_keys_put h.nodup
  own := by
    rintro ⟨k, q⟩ hp
    have hl := (Listing.mem_iff_lookup (Listing.nodup_keys_put h.nodup)).mp hp
    rw [Listing.lookup_put] at hl
    split at hl
    · rename_i hk
      rw [hk, Option.some.inj hl]
    · exact h.own (k, q) ((Listing.mem_iff_lookup h.nodup).mpr hl)

theorem named_ofList (gs : List Grammar) : (ofList gs).Named := by
  induction gs using List.reverseRecOn with
  | nil => exact ⟨List.nodup_nil, List.forall_mem_nil _⟩
  | append_singleton gs g ih =>
    rw [ofList_concat]
    exact ih.register g

theorem Named.mem_grammars_iff (h : r.Named) :
    g ∈ r.grammars ↔ List.lookup g.name r.byName = some g := by
  rw [← Listing.mem_iff_lookup h.nodup, grammars, List.mem_map]
  constructor
  · rintro ⟨⟨k, q⟩, hp, rfl⟩
    have hk : k = q.name := h.own (k, q) hp
    rwa [← hk]
  · intro hp
    exact ⟨_, hp, rfl⟩

theorem lookup_byTag_ofList :
    List.lookup key (ofList gs).byTag = some g ↔
      Latest (fun q => ∃ t ∈ q.tags, normalTag t = key) gs g :=
  eq_some_iff_latest (f := fun gs => List.lookup key (ofList gs).byTag) rfl
    (fun gs q => by rw [ofList_concat, lookup_byTag_register]) gs g

theorem get?_ofList : (ofList gs).get? tag = some g ↔ tag ≠ "" ∧ Latest (·.AnswersTo tag) gs g := by
  have hlast : List.lookup (normalTag tag) (ofList gs).byTag = some g ↔
      Latest (·.AnswersTo tag) gs g := by
    simp only [lookup_byTag_ofList, Grammar.mem_tags, Grammar.AnswersTo]
  rw [get?, ← hlast]
  split
  · rename_i h
    simp [h]
  · rename_i h
    simp [h]

theorem mem_grammars_ofList : g ∈ (ofList gs).grammars ↔ Latest (·.name = g.name) gs g := by
  rw [(named_ofList gs).mem_grammars_iff]
  exact eq_some_iff_latest (f := fun gs => List.lookup g.name (ofList gs).byName) rfl
    (fun gs q => by rw [ofList_concat, lookup_byName_register]) gs g

/-- Only registered grammars are found. -/
theorem mem_of_get?_ofList (h : (ofList gs).get? tag = some g) : g ∈ gs :=
  (get?_ofList.mp h).2.mem

end Registry

end FencedChat
