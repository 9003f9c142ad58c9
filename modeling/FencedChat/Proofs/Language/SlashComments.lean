import FencedChat.Proofs.Grammar.Offset
import FencedChat.Proofs.Highlight.Tiling
import FencedChat.Proofs.Language.Quoted

/-!
Comments that a slash opens. A scan takes the earliest match, so the priority of the rules for
comments counts only where no other match has started before. Numbers and words take no slash: an
opener can be inside a comment, a literal or a run of operator characters, and it is inside such a
run exactly if it stands behind an operator character that is one.
-/

namespace FencedChat

namespace Pattern

theorem takes_oneOf (ps : List Pattern) (c : Char) : (oneOf ps).takes c = ps.any (·.takes c) := by
  induction ps with
  | nil => rfl
  | cons p ps ih =>
    cases ps with
    | nil => exact (Bool.or_false _).symm
    | cons q qs => exact congrArg (p.takes c || ·) ih

/-- Words take the characters that they are made of, as they are spelled. -/
theorem takes_spelled {names : List String} {f : Char → CharSet} {c : Char} :
    (all [notAfter wordNeighbour, group false (oneOf ((wordOrder names).map fun w =>
      sets (w.toList.map f))), notBefore (set wordNeighbour)]).takes c = true ↔
      ∃ w ∈ names, ∃ d ∈ w.toList, (f d).mem c = true := by
  simp only [all, takes, notAfter, notBefore, Bool.false_or, Bool.or_false, takes_oneOf,
    List.any_map, List.any_eq_true, Function.comp_apply, mem_wordOrder]

theorem takes_words {names : List String} {c : Char} :
    (words names).takes c = true ↔ ∃ w ∈ names, c ∈ w.toList := by
  have hwords : (words names).takes c = true ↔
      ∃ w ∈ names, ∃ d ∈ w.toList, (CharSet.single d).mem c = true := takes_spelled
  simp only [hwords, CharSet.mem_single, beq_iff_eq, exists_eq_right']

end Pattern

namespace Language

open Pattern

/-- The grammars of the languages whose comments are those of C. -/
def cFamily : List Grammar := [c, cpp, java, csharp, go, rust, javascript, typescript]

/-- The text starts with what opens a comment. -/
def OpensComment (cs : List Char) : Prop := ['/', '/'] <+: cs ∨ ['/', '*'] <+: cs

instance : DecidablePred OpensComment := fun _ => inferInstanceAs (Decidable (_ ∨ _))

def operatorRun : CharSet := .chars "+-*/%=<>!&|^~?:"

/-- A rule that is not for comments comes behind those that are, and its matches take a slash only
if they are literals or operators. -/
structure YieldsOpeners (r : Rule) : Prop where
  behind : r.category ≠ .comment → Priority.lineComment < r.priority
  operator : r.category = .operator → r.pattern = operator
  takes : r.category ∉ [.comment, .string, .operator] → r.pattern.takes '/' = false

instance : DecidablePred YieldsOpeners := fun _ =>
  decidable_of_iff (_ ∧ _ ∧ _) ⟨fun h => ⟨h.1, h.2.1, h.2.2⟩, fun h => ⟨h.1, h.2, h.3⟩⟩

variable {names : List String}

theorem yieldsOpeners_of_words {r : Rule} (hp : r.pattern = words names)
    (hl : Priority.lineComment < r.priority) (hc : r.category = .keyword ∨ r.category = .builtin) :
    YieldsOpeners r ↔ ∀ w ∈ names, '/' ∉ w.toList := by
  have hwords : (words names).takes '/' = false ↔ ∀ w ∈ names, '/' ∉ w.toList := by
    rw [← Bool.not_eq_true, takes_words]
    simp only [not_exists, not_and]
  rw [← hwords, ← hp]
  constructor
  · intro h
    apply h.takes
    rcases hc with hc | hc <;> simp [hc]
  · intro h
    refine ⟨fun _ => hl, fun ho => ?_, fun _ => h⟩
    rcases hc with hc | hc <;> simp [hc] at ho

theorem yieldsOpeners_keywordRule (hne : names ≠ []) (h : "" ∉ names) :
    YieldsOpeners (keywordRule names hne h) ↔ ∀ w ∈ names, '/' ∉ w.toList :=
  yieldsOpeners_of_words rfl (show Priority.lineComment < Priority.keyword by decide) (.inl rfl)

theorem yieldsOpeners_builtinRule (hne : names ≠ []) (h : "" ∉ names) :
    YieldsOpeners (builtinRule names hne h) ↔ ∀ w ∈ names, '/' ∉ w.toList :=
  yieldsOpeners_of_words rfl (show Priority.lineComment < Priority.builtin by decide) (.inr rfl)

theorem yieldsOpeners_of_mem_cFamily : ∀ g ∈ cFamily, ∀ r ∈ g.rules, YieldsOpeners r := by
  simp only [cFamily, List.forall_mem_cons, List.not_mem_nil, false_imp_iff, implies_true, and_true]
  refine ⟨?c, ?cpp, ?java, ?csharp, ?go, ?rust, ?javascript, ?typescript⟩
  all_goals
    apply Grammar.forall_mem_ofRules
    -- the words are settled by their characters; the other rules are closed terms
    simp only [commentRules, List.cons_append, List.nil_append, List.forall_mem_cons,
      yieldsOpeners_keywordRule, yieldsOpeners_builtinRule]
    decide +kernel

theorem commentRules_subset : ∀ g ∈ cFamily, ∀ r ∈ commentRules, r ∈ g.rules := by
  have hrules (name : String) (rules : List Rule) (aliases : List String)
      (hne : commentRules ++ rules ≠ []) :
      ∀ r ∈ commentRules, r ∈ (Grammar.ofRules name (commentRules ++ rules) aliases hne).rules :=
    fun r hr => Grammar.mem_byPriority.mpr (List.mem_append_left rules hr)
  simp only [cFamily, List.forall_mem_cons, List.not_mem_nil, false_imp_iff, implies_true, and_true]
  refine ⟨?c, ?cpp, ?java, ?csharp, ?go, ?rust, ?javascript, ?typescript⟩
  all_goals exact hrules _ _ _ _

theorem mem_builtin_of_mem_cFamily : ∀ g ∈ cFamily, g ∈ builtin := by simp [cFamily, builtin]

variable {s t : Cursor} {cs ds : List Char}

theorem opensComment_iff : OpensComment cs ↔ ∃ d ∈ ['/', '*'], ∃ r, cs = '/' :: d :: r := by
  constructor
  · rintro (⟨r, rfl⟩ | ⟨r, rfl⟩)
    · exact ⟨'/', by simp, r, rfl⟩
    · exact ⟨'*', by simp, r, rfl⟩
  · rintro ⟨d, hd, r, rfl⟩
    rcases List.mem_pair.mp hd with rfl | rfl
    · exact .inl ⟨r, rfl⟩
    · exact .inr ⟨r, rfl⟩

theorem OpensComment.mono (h : OpensComment cs) (hp : cs <+: ds) : OpensComment ds :=
  h.imp (·.trans hp) (·.trans hp)

theorem OpensComment.lt_length {i : Nat} (h : OpensComment (cs.drop i)) : i < cs.length := by
  obtain ⟨d, -, v, hv⟩ := opensComment_iff.mp h
  have hlength := congrArg List.length hv
  rw [List.length_drop, List.length_cons] at hlength
  omega

/-- The characters of an opener are among those that operators are runs of. -/
theorem mem_operatorRun {d : Char} (hd : d ∈ ['/', '*']) : operatorRun.mem d = true := by
  rcases List.mem_pair.mp hd with rfl | rfl
  · decide +kernel
  · decide +kernel

theorem matchesAt_slashComment (h : ['/', '/'] <+: s.rest) :
    slashCommentRule.matchesAt s = true := by
  obtain ⟨r, hr⟩ := h
  exact reads_slashComment.matchesAt hr.symm

/-- A comment that is not closed runs to the end of the text. -/
theorem matchesAt_blockComment (h : ['/', '*'] <+: s.rest) :
    blockCommentRule.matchesAt s = true := by
  obtain ⟨r, hr⟩ := h
  exact reads_blockComment.matchesAt hr.symm

/-- One of the rules for comments matches at an opener. -/
theorem exists_commentRule (h : OpensComment s.rest) :
    ∃ r ∈ commentRules, r.matchesAt s = true ∧ r.priority ≤ Priority.lineComment := by
  rcases h with h | h
  · exact ⟨slashCommentRule, by simp [commentRules], matchesAt_slashComment h, by decide⟩
  · exact ⟨blockCommentRule, by simp [commentRules], matchesAt_blockComment h, by decide⟩

/-- An operator is the whole run that starts at its place, or one character that runs do not
hold. -/
theorem textTo_operator (h : operator.match? s = some t) :
    s.textTo t = s.rest.takeWhile operatorRun.mem ∨
      ∃ c, s.textTo t = [c] ∧ operatorRun.mem c = false := by
  have hoperator : operator = oneOf [plus operatorRun, set (.chars ".,;()[]\x7b\x7d@")] := rfl
  rw [hoperator, match?_oneOf (by simp), List.findSome?_cons, match?_plus] at h
  cases hstep : s.step? operatorRun with
  | some u =>
    rw [hstep] at h
    obtain rfl := Option.some.inj h
    exact .inl (Cursor.passes_skip operatorRun s).textTo
  | none =>
    have hset : (set (.chars ".,;()[]\x7b\x7d@")).match? s = some t := by simpa [hstep] using h
    rw [match?_set] at hset
    obtain ⟨c, hc, -⟩ := Cursor.passes_step? hset
    exact .inr ⟨c, hc.textTo, Cursor.mem_eq_false_of_step?_eq_none hstep hc⟩

/-- What takes an opener. -/
theorem category_of_takes {g : Grammar} (hg : g ∈ cFamily) {r : Rule} {k : Nat}
    (h : Grammar.Takes g.rules s r t) (hk : k < (s.textTo t).length)
    (ho : OpensComment (s.rest.drop k)) :
    r.category = .comment ∨ 0 < k ∧ (r.category = .string ∨ r.category = .operator) := by
  have hr := yieldsOpeners_of_mem_cFamily g hg r h.mem
  by_cases hc : r.category = .comment
  · exact .inl hc
  refine .inr ⟨?_, ?_⟩
  · -- a rule for comments would be taken at the start
    by_contra hzero
    obtain rfl : k = 0 := by omega
    obtain ⟨q, hq, hmatch, hle⟩ := exists_commentRule ho
    have hleast := h.least q (commentRules_subset g hg q hq) hmatch
    have hbehind := hr.behind hc
    omega
  · by_contra hcategory
    rw [not_or] at hcategory
    have htakes : r.pattern.takes '/' = false := hr.takes (by simp [hc, hcategory])
    obtain ⟨u, ⟨passed, hpassed, hall⟩, hu⟩ := reachesBy_run h.isMatch
    obtain rfl := Option.some.inj hu
    rw [hpassed.textTo] at hk
    obtain ⟨d, -, w, hw⟩ := opensComment_iff.mp ho
    rw [hpassed.rest, List.drop_append_of_le_length (Nat.le_of_lt hk),
      List.drop_eq_getElem_cons hk] at hw
    have hslash : '/' ∈ passed := by
      rw [← (List.cons.inj hw).1]
      exact List.getElem_mem hk
    rw [hall _ hslash] at htakes
    exact absurd htakes (by decide)

/-- A comment starts at the offset, or the offset lies inside a comment or a literal. -/
def Shielded (spans : List Span) (i : Nat) : Prop :=
  (∃ x, Span.at? spans i = some (x, 0) ∧ x.category = .comment) ∨
    ∃ x k, Span.at? spans i = some (x, k) ∧ 0 < k ∧ (x.category = .comment ∨ x.category = .string)

/-- The character before the offset lies in an operator and is one that operators are runs of. -/
def BehindOperator (spans : List Span) (cs : List Char) (i : Nat) : Prop :=
  ∃ j c, i = j + 1 ∧ Span.categoryAt? spans j = some .operator ∧ cs[j]? = some c ∧
    operatorRun.mem c = true

/-- Comments win over operators: every opener is in a comment or a literal, and no operator holds
one. -/
structure CommentsWin (spans : List Span) (cs : List Char) : Prop where
  opener : ∀ i, OpensComment (cs.drop i) → Shielded spans i
  operator : ∀ x ∈ spans, x.category = .operator → ∀ k, ¬ OpensComment (x.text.toList.drop k)

variable {g : Grammar} {code : String} {x : Span} {i k : Nat}

/-- What a span is that holds an opener. -/
theorem category_at_opener (hg : g ∈ cFamily) (hx : Span.at? (g.tokens code) i = some (x, k))
    (ho : OpensComment (code.toList.drop i)) :
    x.category = .comment ∨ 0 < k ∧ (x.category = .string ∨ x.category = .operator) := by
  have hw := Grammar.walks_tokens (mem_builtin_of_mem_cFamily g hg) code
  by_cases hc : x.category = .plain
  · obtain ⟨s, hs, hsilent⟩ := hw.silent_at? (g.textOf_tokens code) hx hc
    rw [← hs] at ho
    obtain ⟨r, hr, hmatch, -⟩ := exists_commentRule ho
    have hnone := hsilent r (commentRules_subset g hg r hr)
    simp [Rule.matchesAt, hnone] at hmatch
  · obtain ⟨r, s, t, ht, rfl, hs⟩ := hw.takes_at? hx hc
    rw [← hs] at ho
    have hk := Span.lt_of_at? hx
    rw [← Span.length_text, String.toList_ofList] at hk
    exact category_of_takes hg ht hk ho

theorem drop_takeWhile {p : Char → Bool} {w : List Char} (hk : k < (w.takeWhile p).length) :
    (w.takeWhile p).drop k = (w.drop k).takeWhile p := by
  induction w generalizing k with
  | nil => simp at hk
  | cons c w ih =>
    by_cases hc : p c
    · rw [List.takeWhile_cons_of_pos hc] at hk ⊢
      cases k with
      | zero => rw [List.drop_zero, List.drop_zero, List.takeWhile_cons_of_pos hc]
      | succ k => exact ih (Nat.lt_of_succ_lt_succ hk)
    · rw [List.takeWhile_cons_of_neg hc] at hk
      exact absurd hk (Nat.not_lt_zero k)

/-- An operator goes on up to the end of the run, or is one character that runs do not hold. -/
theorem text_of_operator (hg : g ∈ cFamily) (hx : Span.at? (g.tokens code) i = some (x, k))
    (hc : x.category = .operator) :
    x.text.toList.drop k = (code.toList.drop i).takeWhile operatorRun.mem ∨
      ∃ c, x.text.toList = [c] ∧ operatorRun.mem c = false := by
  have hw := Grammar.walks_tokens (mem_builtin_of_mem_cFamily g hg) code
  obtain ⟨r, s, t, ht, rfl, hs⟩ := hw.takes_at? hx (by simp [hc])
  have hk := Span.lt_of_at? hx
  have hmatch := ht.isMatch
  rw [(yieldsOpeners_of_mem_cFamily g hg r ht.mem).operator hc] at hmatch
  rw [← Span.length_text, String.toList_ofList] at hk
  rw [String.toList_ofList]
  rcases textTo_operator hmatch with htext | hsingle
  · rw [htext] at hk
    rw [htext, drop_takeWhile hk, hs]
    exact .inl rfl
  · exact .inr hsingle

/-- An opener behind an operator is part of that operator. -/
theorem operator_at_opener (hg : g ∈ cFamily) (ho : OpensComment (code.toList.drop i))
    (hb : BehindOperator (g.tokens code) code.toList i) :
    ∃ x k, Span.at? (g.tokens code) i = some (x, k) ∧ x.category = .operator ∧
      OpensComment (x.text.toList.drop k) := by
  obtain ⟨j, c, rfl, hat, hc, hrun⟩ := hb
  obtain ⟨x, k, hx, hcategory⟩ := Span.categoryAt?_eq_some_iff.mp hat
  obtain ⟨hj, rfl⟩ := List.getElem?_eq_some_iff.mp hc
  obtain ⟨d, hd, v, hv⟩ := opensComment_iff.mp ho
  have hdrop : code.toList.drop j = code.toList[j] :: '/' :: d :: v := by
    rw [List.drop_eq_getElem_cons hj, hv]
  rcases text_of_operator hg hx hcategory with htext | ⟨e, htext, he⟩
  · have hslash : operatorRun.mem '/' = true := mem_operatorRun List.mem_cons_self
    rw [hdrop, List.takeWhile_cons_of_pos hrun, List.takeWhile_cons_of_pos hslash,
      List.takeWhile_cons_of_pos (mem_operatorRun hd)] at htext
    have hlength := congrArg List.length htext
    simp only [List.length_drop, Span.length_text, List.length_cons] at hlength
    refine ⟨x, k + 1, (Span.at?_succ_iff (by omega)).mpr hx, hcategory, ?_⟩
    rw [← List.drop_drop, htext]
    exact opensComment_iff.mpr ⟨d, hd, _, rfl⟩
  · -- a single character of an operator is not one of a run
    have hk := Span.lt_of_at? hx
    rw [← Span.length_text, htext, List.length_singleton] at hk
    obtain rfl : k = 0 := by omega
    obtain ⟨w, hw⟩ := Span.drop_textOf_of_at? hx
    rw [g.textOf_tokens, htext, hdrop] at hw
    rw [(List.cons.inj hw).1, hrun] at he
    exact absurd he (by decide)

/-- Inside an operator, the character before an offset is one that operators are runs of. -/
theorem behindOperator_of_pos (hg : g ∈ cFamily) (hx : Span.at? (g.tokens code) i = some (x, k))
    (hc : x.category = .operator) (hk : 0 < k) : BehindOperator (g.tokens code) code.toList i := by
  obtain ⟨m, rfl⟩ := Nat.exists_eq_succ_of_ne_zero (Nat.ne_of_gt hk)
  obtain ⟨j, rfl⟩ : ∃ j, i = j + 1 := by
    obtain ⟨before, after, -, hi, -⟩ := Span.at?_eq_some_iff.mp hx
    exact ⟨(Span.textOf before).length + m, hi⟩
  have hlt := Span.lt_of_at? hx
  have hj := (Span.at?_succ_iff hlt).mp hx
  rcases text_of_operator hg hj hc with htext | ⟨e, htext, -⟩
  · have hne : x.text.toList.drop m ≠ [] := by
      rw [Ne, List.drop_eq_nil_iff, Span.length_text]
      omega
    rw [htext] at hne
    obtain ⟨c, v, hv⟩ := List.exists_cons_of_ne_nil hne
    have hmem : c ∈ (code.toList.drop j).takeWhile operatorRun.mem := by
      rw [hv]
      exact List.mem_cons_self
    have hchar : code.toList[j]? = some c := by
      obtain ⟨w, hw⟩ := List.takeWhile_prefix (l := code.toList.drop j) operatorRun.mem
      rw [← List.head?_drop, ← hw, hv]
      rfl
    exact ⟨j, c, rfl, Span.categoryAt?_eq_some_iff.mpr ⟨x, m, hj, hc⟩, hchar,
      List.mem_takeWhile_imp hmem⟩
  · rw [← Span.length_text, htext, List.length_singleton] at hlt
    omega

/-- The span of an opener that is behind an operator, or of one that is not. -/
theorem shielded_iff (hg : g ∈ cFamily) (ho : OpensComment (code.toList.drop i)) :
    Shielded (g.tokens code) i ↔ ¬ BehindOperator (g.tokens code) code.toList i := by
  constructor
  · intro hs hb
    obtain ⟨x, k, hx, hc, -⟩ := operator_at_opener hg ho hb
    rcases hs with ⟨y, hy, hyc⟩ | ⟨y, m, hy, -, hyc⟩
    · obtain ⟨rfl, -⟩ := Prod.mk.inj (Option.some.inj (hx.symm.trans hy))
      exact absurd (hc.symm.trans hyc) (by decide)
    · obtain ⟨rfl, -⟩ := Prod.mk.inj (Option.some.inj (hx.symm.trans hy))
      rcases hyc with hyc | hyc
      · exact absurd (hc.symm.trans hyc) (by decide)
      · exact absurd (hc.symm.trans hyc) (by decide)
  · intro hb
    have hi : i < (Span.textOf (g.tokens code)).length := by
      rw [g.textOf_tokens]
      exact ho.lt_length
    obtain ⟨x, k, hx⟩ := Span.exists_at? hi
    rcases category_at_opener hg hx ho with hc | ⟨hk, hc | hc⟩
    · cases k with
      | zero => exact .inl ⟨x, hx, hc⟩
      | succ k => exact .inr ⟨x, k + 1, hx, Nat.succ_pos k, .inl hc⟩
    · exact .inr ⟨x, k, hx, hk, .inr hc⟩
    · exact absurd (behindOperator_of_pos hg hx hc hk) hb

/-- An operator holds no opener but those behind operators. -/
theorem behindOperator_of_holds (hg : g ∈ cFamily) (hx : Span.at? (g.tokens code) i = some (x, k))
    (hc : x.category = .operator) (ho : OpensComment (x.text.toList.drop k)) :
    OpensComment (code.toList.drop i) ∧ BehindOperator (g.tokens code) code.toList i := by
  have hprefix := Span.drop_textOf_of_at? hx
  rw [g.textOf_tokens] at hprefix
  have hopener := ho.mono hprefix
  refine ⟨hopener, ?_⟩
  rcases category_at_opener hg hx hopener with h | ⟨hk, -⟩
  · exact absurd (hc.symm.trans h) (by decide)
  · exact behindOperator_of_pos hg hx hc hk

/-- In the languages with the comments of C an opener is in a comment or a literal unless it stands
behind an operator character that is part of an operator; then it is part of that operator as well.
So comments win over operators in a text exactly if no opener stands behind such a character. -/
theorem comments_win_iff {g : Grammar} (hg : g ∈ cFamily) (code : String) :
    (∀ i, OpensComment (code.toList.drop i) →
      (Shielded (g.tokens code) i ↔ ¬ BehindOperator (g.tokens code) code.toList i)) ∧
    (∀ i, OpensComment (code.toList.drop i) →
      (BehindOperator (g.tokens code) code.toList i ↔
        ∃ x k, Span.at? (g.tokens code) i = some (x, k) ∧ x.category = .operator ∧
          OpensComment (x.text.toList.drop k))) ∧
    (CommentsWin (g.tokens code) code.toList ↔
      ∀ i, OpensComment (code.toList.drop i) → ¬ BehindOperator (g.tokens code) code.toList i) := by
  refine ⟨?shielded, ?held, ?win⟩
  case shielded =>
    intro i ho
    exact shielded_iff hg ho
  case held =>
    intro i ho
    constructor
    · exact operator_at_opener hg ho
    · rintro ⟨x, k, hx, hc, hk⟩
      exact (behindOperator_of_holds hg hx hc hk).2
  case win =>
    constructor
    · intro h i ho
      exact (shielded_iff hg ho).mp (h.opener i ho)
    · intro h
      refine ⟨fun i ho => (shielded_iff hg ho).mpr (h i ho), fun x hx hc k hk => ?_⟩
      have hlt := hk.lt_length
      rw [Span.length_text] at hlt
      obtain ⟨i, hi⟩ := Span.exists_at?_of_mem hx hlt
      obtain ⟨ho, hb⟩ := behindOperator_of_holds hg hi hc hk
      exact h i ho hb

theorem tokens_behind_equals :
    c.tokens "a=//b" = [⟨.plain, "a"⟩, ⟨.operator, "=//"⟩, ⟨.plain, "b"⟩] := by decide +kernel

/-- An opener behind a name wins, and one behind an equals sign does not. -/
theorem comments_win_iff_c : c ∈ cFamily ∧ Shielded (c.tokens "a//b") 1 ∧
    ¬ Shielded (c.tokens "a=//b") 2 := by
  have hc : c ∈ cFamily := List.mem_cons_self
  refine ⟨hc, ?name, ?equals⟩
  case name =>
    apply ((comments_win_iff hc "a//b").1 1 (by decide +kernel)).mpr
    rintro ⟨j, d, hj, hat, -⟩
    obtain rfl : j = 0 := by omega
    revert hat
    decide +kernel
  case equals =>
    intro h
    apply ((comments_win_iff hc "a=//b").1 2 (by decide +kernel)).mp h
    refine ⟨1, '=', rfl, ?_, by decide +kernel, by decide +kernel⟩
    rw [tokens_behind_equals]
    rfl

/-- Comments do not always win: a run of operator characters takes the slashes behind it. -/
theorem not_commentsWin_c :
    ¬ ∀ g ∈ cFamily, ∀ code : String, CommentsWin (g.tokens code) code.toList := by
  intro h
  have hwin := h c List.mem_cons_self "a=//b"
  rw [tokens_behind_equals] at hwin
  exact hwin.operator ⟨.operator, "=//"⟩ (by simp) rfl 1 (by decide +kernel)

end Language

end FencedChat
