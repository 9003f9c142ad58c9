import FencedChat.Proofs.Language.Moving
import FencedChat.Proofs.Pattern.Ends

/-!
The scan against the rules alone. One pattern of alternatives, searched for from the left, finds the
pieces that trying every rule at every place gives: the same places, rules and lengths. The order of
the rules matters within a priority only.
-/

namespace FencedChat

theorem Pattern.run_alt_of_some {p q : Pattern} {s t : Cursor} {k : Cursor → Option Cursor}
    (h : p.run s k = some t) : (alt p q).run s k = some t := by
  simp only [run, h]

theorem Pattern.run_alt_of_none {p q : Pattern} {s : Cursor} {k : Cursor → Option Cursor}
    (h : p.run s k = none) : (alt p q).run s k = q.run s k := by
  simp only [run, h]

/-- Alternatives match where one of them does, up to the end of the first that does. -/
theorem Pattern.match?_oneOf {ps : List Pattern} (hne : ps ≠ []) (s : Cursor) :
    (oneOf ps).match? s = ps.findSome? fun p => p.match? s := run_oneOf hne s some

namespace Grammar

variable {rules rules' : List Rule} {s t : Cursor} {g : Grammar}

def alternatives (rules : List Rule) : Pattern :=
  .oneOf (rules.map fun r => .group true r.pattern)

theorem match?_alternatives (hne : rules ≠ []) (s : Cursor) :
    (alternatives rules).match? s = (hitAt? rules true s).map Hit.stop := by
  have hmap : rules.map (fun r => Pattern.group true r.pattern) ≠ [] := by simpa using hne
  rw [alternatives, Pattern.match?_oneOf hmap, hitAt?, List.findSome?_map, List.map_findSome?]
  congr 1
  funext r
  rw [Function.comp_apply, Function.comp_apply, Option.map_map]
  show r.pattern.match? s = (r.pattern.match? s).map id
  rw [Option.map_id_fun, id]

/-- The alternatives match from one place to another exactly if some rule takes the text between. -/
theorem match?_alternatives_eq_some_iff (hne : rules ≠ []) (hs : rules.Pairwise NotBehind) :
    (alternatives rules).match? s = some t ↔ ∃ r, Takes rules s r t := by
  rw [match?_alternatives hne, Option.map_eq_some_iff]
  constructor
  · rintro ⟨hit, hhit, rfl⟩
    obtain ⟨r, hr, _⟩ := takes_of_hitAt? hs hhit
    exact ⟨r, hr⟩
  · rintro ⟨r, hr⟩
    cases hhit : hitAt? rules true s with
    | none => exact absurd (hitAt?_eq_none_iff.mp hhit) hr.not_silent
    | some hit =>
      obtain ⟨q, hq, _⟩ := takes_of_hitAt? hs hhit
      exact ⟨hit, rfl, (hq.unique hr).2⟩

/-- A grammar scans by rules: its alternatives match what the rules take, its scan is the one walk
by the rules, and no rule matches inside a plain piece. -/
structure ScansBy (g : Grammar) (rules : List Rule) : Prop where
  alternatives : ∀ s t, (alternatives g.rules).match? s = some t ↔ ∃ r, Takes rules s r t
  walk : ∀ code xs, Walks rules (.start code.toList) xs ↔ xs = g.scan code
  plain : ∀ code before x after u v, g.scan code = before ++ x :: after → x.category = .plain →
    x.text.toList = u ++ v → v ≠ [] → ∀ r ∈ rules,
      r.pattern.match? (.between (Span.textOf before ++ u) (v ++ Span.textOf after)) = none

theorem ScansBy.of_walks (hm : ∀ r ∈ rules, r.NeverEmpty)
    (ha : ∀ s t, (Grammar.alternatives g.rules).match? s = some t ↔ ∃ r, Takes rules s r t)
    (hw : ∀ code, Walks rules (.start code.toList) (g.scan code)) : ScansBy g rules where
  alternatives := ha
  walk := by
    intro code xs
    constructor
    · intro hxs
      exact hxs.unique hm (hw code)
    · rintro rfl
      exact hw code
  plain := by
    intro code before x after u v hscan hx huv hv
    apply (hw code).match?_eq_none hscan hx huv hv
    -- the text before the place and the text behind it are the whole text
    have htext : code.toList = Span.textOf before ++ u ++ (v ++ Span.textOf after) := by
      rw [← textOf_scan g code, hscan, Span.textOf_append, Span.textOf_cons, huv]
      simp only [List.append_assoc]
    rw [htext]
    exact Cursor.passes_between _ _

theorem scansBy_rules (hs : g.rules.Pairwise NotBehind) (hm : ∀ r ∈ g.rules, r.NeverEmpty) :
    ScansBy g g.rules :=
  .of_walks hm (fun _ _ => match?_alternatives_eq_some_iff g.rules_ne hs) (walks_scan g hs hm)

/-- A grammar scans by the rules that it is made of, in the order in which they are given. -/
theorem scansBy_ofRules (name : String) (aliases : List String) (hne : rules ≠ [])
    (hm : ∀ r ∈ rules, r.NeverEmpty) : ScansBy (ofRules name rules aliases hne) rules := by
  have hs := pairwise_byPriority rules
  have hsorted : ScansBy (ofRules name rules aliases hne) (byPriority rules) :=
    scansBy_rules hs fun r hr => hm r (mem_byPriority.mp hr)
  apply ScansBy.of_walks hm
  · intro s t
    rw [hsorted.alternatives]
    exact exists_congr fun r => takes_byPriority
  · intro code
    exact ((hsorted.walk code _).mpr rfl).of_byPriority

/-- Every built-in grammar, and every grammar whose rules match the empty text nowhere, scans by its
rules. Rules that agree on the order within each priority give the same scan. -/
theorem scans_by_rules :
    (∀ g ∈ Language.builtin, ScansBy g g.rules) ∧
    (∀ (name : String) (rules : List Rule) (aliases : List String) (hne : rules ≠ []),
      (∀ r ∈ rules, r.NeverEmpty) → ScansBy (ofRules name rules aliases hne) rules) ∧
    ∀ (name name' : String) (rules rules' : List Rule) (aliases aliases' : List String)
      (hne : rules ≠ []) (hne' : rules' ≠ []), (∀ n, ofPriority n rules = ofPriority n rules') →
      ∀ code,
        (ofRules name rules aliases hne).scan code =
          (ofRules name' rules' aliases' hne').scan code := by
  refine ⟨?builtin, ?given, ?order⟩
  case builtin =>
    intro g hg
    exact scansBy_rules (Language.pairwise_of_mem_builtin g hg)
      (Language.neverEmpty_of_mem_builtin hg)
  case given =>
    intro name rules aliases hne hm
    exact scansBy_ofRules name aliases hne hm
  case order =>
    intro name name' rules rules' aliases aliases' hne hne' h code
    have horder : byPriority rules = byPriority rules' := byPriority_congr h
    simp only [scan, ofRules, horder]

def digitsRule : Rule := ⟨.number, .plus .digit, 2, by decide, by decide, by decide⟩

def pairRule : Rule := ⟨.keyword, .text "a1", 1, by decide, by decide, by decide⟩

def letterRule : Rule :=
  ⟨.builtin, .all [.notAfter .digit, .text "a"], 1, by decide, by decide, by decide⟩

/-- Rules of which two match at one place, and one looks behind it. -/
def overlappingRules : List Rule := [digitsRule, pairRule, letterRule]

/-- The same rules, with the same order of those of one priority. -/
def reorderedRules : List Rule := [pairRule, letterRule, digitsRule]

theorem neverEmpty_overlappingRules : ∀ r ∈ overlappingRules, r.NeverEmpty := by
  have h : ∀ r ∈ overlappingRules, r.pattern.advances = true := by decide
  exact fun r hr => Rule.neverEmpty_of_advances (h r hr)

theorem ofPriority_reorderedRules (n : Int) :
    ofPriority n overlappingRules = ofPriority n reorderedRules := by
  by_cases h₁ : n = 1
  · subst h₁
    rfl
  · by_cases h₂ : n = 2
    · subst h₂
      rfl
    · have hd : digitsRule.priority ≠ n := Ne.symm h₂
      have hp : pairRule.priority ≠ n := Ne.symm h₁
      have hl : letterRule.priority ≠ n := Ne.symm h₁
      simp only [overlappingRules, reorderedRules, ofPriority_cons_ne hd, ofPriority_cons_ne hp,
        ofPriority_cons_ne hl]

theorem walks_overlappingRules : Walks overlappingRules (.start "a1 1a".toList)
    [⟨.keyword, "a1"⟩, ⟨.plain, " "⟩, ⟨.number, "1"⟩, ⟨.plain, "a"⟩] := by
  have hend : Walks overlappingRules (.between "a1 1a".toList []) [] := .finish rfl
  have ha : Walks overlappingRules (.between "a1 1".toList ['a']) [⟨.plain, "a"⟩] :=
    .leave (by decide) ⟨rfl, rfl⟩ hend
  have hdigits : Takes overlappingRules (.between "a1 ".toList "1a".toList) digitsRule
      (.between "a1 1".toList ['a']) := ⟨by decide, by decide, rfl⟩
  have hblank : Walks overlappingRules (.between "a1".toList " 1a".toList)
      [⟨.plain, " "⟩, ⟨.number, "1"⟩, ⟨.plain, "a"⟩] :=
    .leave (by decide) ⟨rfl, rfl⟩ (.take hdigits ha)
  have hpair : Takes overlappingRules (.start "a1 1a".toList) pairRule
      (.between "a1".toList " 1a".toList) := ⟨by decide, by decide, rfl⟩
  exact .take hpair hblank

theorem scan_overlappingRules :
    (ofRules "n" overlappingRules [] (List.cons_ne_nil _ _)).scan "a1 1a" =
      [⟨.keyword, "a1"⟩, ⟨.plain, " "⟩, ⟨.number, "1"⟩, ⟨.plain, "a"⟩] ∧
    (ofRules "m" reorderedRules [] (List.cons_ne_nil _ _)).scan "a1 1a" =
      (ofRules "n" overlappingRules [] (List.cons_ne_nil _ _)).scan "a1 1a" := by
  obtain ⟨-, hgiven, horder⟩ := scans_by_rules
  constructor
  · have hscan := hgiven "n" overlappingRules [] (List.cons_ne_nil _ _) neverEmpty_overlappingRules
    exact ((hscan.walk "a1 1a" _).mp walks_overlappingRules).symm
  · exact horder "m" "n" _ _ [] [] _ _ (fun n => (ofPriority_reorderedRules n).symm) "a1 1a"

end Grammar

end FencedChat
