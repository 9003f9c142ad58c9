import FencedChat.Proofs.Grammar.Walk
import FencedChat.Proofs.Pattern.IdleWays

/-!
Empty pieces of a scan. A rule is tried on the empty text alone before it is accepted, and that says
nothing about looks that succeed only beside other characters. So an accepted rule has an empty
match wherever the looks of one of its ways succeed, and a piece of a scan is empty only at such a
place.
-/

namespace FencedChat

theorem Cursor.Reaches.exists_between {cs : List Char} {s : Cursor} (h : (start cs).Reaches s) :
    ∃ before after, cs = before ++ after ∧ s = between before after := by
  obtain ⟨passed, hp⟩ := h
  exact ⟨passed, s.rest, hp.rest, ext (hp.prev.trans Option.or_none) rfl⟩

/-- A rule is made of every pattern that remembers nothing and is not idle where there is no
text. -/
theorem Rule.exists_make?_iff {category : Category} {pattern : Pattern} {priority : Int} :
    (∃ r, make? category pattern priority = .ok r) ↔
      category ≠ .plain ∧ pattern.captures = false ∧ ¬ pattern.IdleAt (.start []) := by
  rw [← Pattern.matchesEmpty_iff]
  unfold make?
  split
  · simp_all
  · split
    · simp_all
    · split <;> simp_all

namespace Grammar

variable {rules : List Rule} {mayBeEmpty : Bool} {s : Cursor} {hit : Hit} {x : Span}

theorem exists_rule_of_hitAt? (h : hitAt? rules mayBeEmpty s = some hit) :
    ∃ r ∈ rules, r.category = hit.category ∧ hit.start = s ∧ hit.stop ∈ r.pattern.ends s := by
  obtain ⟨r, hr, hmap⟩ := List.exists_of_findSome?_eq_some h
  obtain ⟨t, ht, rfl⟩ := Option.map_eq_some_iff.mp hmap
  rw [Pattern.run_eq_findSome?] at ht
  obtain ⟨v, hv, hk⟩ := List.exists_of_findSome?_eq_some ht
  obtain ⟨-, hvt⟩ := Option.ite_none_right_eq_some.mp hk
  obtain rfl := Option.some.inj hvt
  exact ⟨r, hr, rfl, rfl, hv⟩

theorem exists_rule_of_search? (h : search? rules mayBeEmpty s = some hit) :
    ∃ r ∈ rules, r.category = hit.category ∧ hit.stop ∈ r.pattern.ends hit.start := by
  fun_induction search? rules mayBeEmpty s with
  | case1 mayBeEmpty s found hf =>
    obtain rfl := Option.some.inj h
    obtain ⟨r, hr, hc, hs, hstop⟩ := exists_rule_of_hitAt? hf
    exact ⟨r, hr, hc, hs ▸ hstop⟩
  | case2 mayBeEmpty s _ t hn ih => exact ih h
  | case3 => simp at h

/-- If the span is empty, some rule of its category is idle at a place behind the given one. -/
def EmptyByRule (rules : List Rule) (origin : Cursor) (x : Span) : Prop :=
  x.text = "" → ∃ r ∈ rules, r.category = x.category ∧ ∃ s, origin.Reaches s ∧ r.pattern.IdleAt s

variable {origin : Cursor} {done : List Span}

theorem emptyByRule_passOver (gap : List Char) (hd : ∀ x ∈ done, EmptyByRule rules origin x) :
    ∀ x ∈ passOver gap done, EmptyByRule rules origin x := by
  unfold passOver
  split
  · exact hd
  · rename_i hgap
    rw [List.forall_mem_cons]
    refine ⟨fun he => ?_, hd⟩
    rw [String.ofList_eq_empty_iff] at he
    exact absurd (List.isEmpty_iff.mpr he) hgap

theorem emptyByRule_hit (hs : origin.Reaches s) (h : search? rules mayBeEmpty s = some hit) :
    EmptyByRule rules origin ⟨hit.category, String.ofList (hit.start.textTo hit.stop)⟩ := by
  intro he
  obtain ⟨hstart, passed, hp⟩ := search?_reaches h
  obtain ⟨r, hr, hc, hstop⟩ := exists_rule_of_search? h
  obtain rfl : passed = [] := by rwa [String.ofList_eq_empty_iff, hp.textTo] at he
  rw [hp.eq_of_nil] at hstop
  exact ⟨r, hr, hc, hit.start, hs.trans hstart, Pattern.mem_ends_self_iff.mp hstop⟩

/-- Whatever is found on the way, an empty piece is the empty match of some rule. -/
theorem emptyByRule_scanOnto (hs : origin.Reaches s) (hd : ∀ x ∈ done, EmptyByRule rules origin x) :
    ∀ x ∈ scanOnto rules done mayBeEmpty s, EmptyByRule rules origin x := by
  fun_induction scanOnto rules done mayBeEmpty s with
  | case1 done mayBeEmpty s _ =>
    exact fun x hx => emptyByRule_passOver _ hd x (List.mem_reverse.mp hx)
  | case2 done mayBeEmpty s hit h found _ ih =>
    obtain ⟨hstart, hstop⟩ := search?_reaches h
    apply ih (hs.trans (hstart.trans hstop))
    exact List.forall_mem_cons.mpr ⟨emptyByRule_hit hs h, emptyByRule_passOver _ hd⟩
  | case3 done s hit found hl h ih =>
    apply ih hs
    exact List.forall_mem_cons.mpr ⟨emptyByRule_hit hs h, emptyByRule_passOver _ hd⟩
  | case4 done mayBeEmpty s hit h found hl _ =>
    have hfound : ∀ x ∈ found, EmptyByRule rules origin x :=
      List.forall_mem_cons.mpr ⟨emptyByRule_hit hs h, emptyByRule_passOver _ hd⟩
    exact fun x hx => emptyByRule_passOver _ hfound x (List.mem_reverse.mp hx)

/-- A rule is accepted unless its pattern is idle where there is no text. A pattern has an empty
match at a place exactly if all looks of one of its ways through without a character succeed there,
so an accepted one without looks has none at all. A piece of a scan is empty only at a place where
some rule is idle. -/
theorem empty_matches_by_looks (category : Category) (pattern : Pattern) (priority : Int)
    (g : Grammar) (code : String) :
    ((∃ r, Rule.make? category pattern priority = .ok r) ↔
      category ≠ .plain ∧ pattern.captures = false ∧ ¬ pattern.IdleAt (.start [])) ∧
    (∀ s, s ∈ pattern.ends s ↔ pattern.IdleAt s) ∧
    (∀ r, Rule.make? category pattern priority = .ok r → pattern.lookFree = true →
      ∀ s, s ∉ pattern.ends s) ∧
    ∀ x ∈ g.scan code, x.text = "" → ∃ r ∈ g.rules, r.category = x.category ∧
      ∃ before after, code.toList = before ++ after ∧ r.pattern.IdleAt (.between before after) := by
  refine ⟨Rule.exists_make?_iff, fun _ => Pattern.mem_ends_self_iff, ?free, ?pieces⟩
  case free =>
    intro r hr hfree s hs
    obtain ⟨-, -, hidle⟩ := Rule.exists_make?_iff.mp ⟨r, hr⟩
    exact hidle ((Pattern.mem_ends_self_iff.mp hs).of_lookFree hfree (.start []))
  case pieces =>
    intro x hx he
    have hall : ∀ x ∈ g.scan code, EmptyByRule g.rules (.start code.toList) x :=
      emptyByRule_scanOnto (.refl _) (List.forall_mem_nil _)
    obtain ⟨r, hr, hc, s, hs, hidle⟩ := hall x hx he
    obtain ⟨before, after, hcode, rfl⟩ := hs.exists_between
    exact ⟨r, hr, hc, before, after, hcode, hidle⟩

def signedRule : Rule :=
  ⟨.number, .all [.optional (.text "-"), .plus .digit], Priority.number, Category.number_ne_plain,
    by decide, by decide⟩

def lookingRule : Rule :=
  ⟨.keyword, .before (.set (.single 'x')), Priority.keyword, Category.keyword_ne_plain, by decide,
    by decide⟩

def lookingGrammar : Grammar := ofRules "looking" [signedRule, lookingRule] []

theorem scan_lookingGrammar : lookingGrammar.scan "-1x" =
    [⟨.number, "-1"⟩, ⟨.keyword, ""⟩, ⟨.plain, "x"⟩] := by decide +kernel

/-- A sign that need not be there does no harm, and a look does. -/
theorem empty_matches_by_looks_signed :
    signedRule.pattern.lookFree = true ∧
    Cursor.start ['x'] ∉ signedRule.pattern.ends (.start ['x']) ∧
    (⟨.keyword, ""⟩ : Span) ∈ lookingGrammar.scan "-1x" ∧
    ∃ r ∈ lookingGrammar.rules, r.category = .keyword ∧
      ∃ before after,
        "-1x".toList = before ++ after ∧ r.pattern.IdleAt (.between before after) := by
  have hfree : signedRule.pattern.lookFree = true := by decide
  have hmade : Rule.make? .number signedRule.pattern Priority.number = .ok signedRule := rfl
  have hmem : (⟨.keyword, ""⟩ : Span) ∈ lookingGrammar.scan "-1x" := by
    rw [scan_lookingGrammar]
    simp
  obtain ⟨-, -, hnone, hpieces⟩ :=
    empty_matches_by_looks .number signedRule.pattern Priority.number lookingGrammar "-1x"
  exact ⟨hfree, hnone signedRule hmade hfree _, hmem, hpieces _ hmem rfl⟩

/-- Not every accepted rule is free of empty matches, and not every piece of a scan holds text. -/
theorem not_forall_rules_nonempty :
    (¬ ∀ (r : Rule) (s : Cursor), s ∉ r.pattern.ends s) ∧
    ¬ ∀ (g : Grammar) (code : String), ∀ x ∈ g.scan code, x.text ≠ "" := by
  constructor
  · intro h
    exact h lookingRule (.start ['x']) (by decide)
  · intro h
    have hmem : (⟨.keyword, ""⟩ : Span) ∈ lookingGrammar.scan "-1x" := by
      rw [scan_lookingGrammar]
      simp
    exact h lookingGrammar "-1x" _ hmem rfl

end Grammar

end FencedChat
