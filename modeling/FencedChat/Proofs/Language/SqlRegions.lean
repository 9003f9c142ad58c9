import FencedChat.Proofs.Language.SlashComments

/-!
Comments and literals of SQL. A machine that knows nothing of numbers, words and operators finds
them: it goes over the text from left to right, and what opens a region counts only outside the
regions that it has found before.
-/

namespace FencedChat

/-- The categories of comments and literals. -/
def Category.IsRegion (category : Category) : Prop := category = .comment ∨ category = .string

instance : DecidablePred Category.IsRegion := fun category =>
  inferInstanceAs (Decidable (category = .comment ∨ category = .string))

namespace Span

/-- Spans with the offsets where they start, the first at the given one. -/
def placedFrom : Nat → List Span → List (Nat × Span)
  | _, [] => []
  | i, x :: xs => (i, x) :: placedFrom (i + x.text.length) xs

/-- The comments and literals among spans, with the offsets where they start. -/
def regionsOf (i : Nat) (spans : List Span) : List (Nat × Span) :=
  (placedFrom i spans).filter fun p => p.2.category.IsRegion

variable {i : Nat} {x : Span} {xs : List Span} {c : Char}

theorem regionsOf_cons_of_isRegion (hx : x.category.IsRegion) :
    regionsOf i (x :: xs) = (i, x) :: regionsOf (i + x.text.length) xs := by
  rw [regionsOf, placedFrom, List.filter_cons_of_pos (by simpa using hx), regionsOf]

theorem regionsOf_cons_of_not_isRegion (hx : ¬ x.category.IsRegion) :
    regionsOf i (x :: xs) = regionsOf (i + x.text.length) xs := by
  rw [regionsOf, placedFrom, List.filter_cons_of_neg (by simpa using hx), regionsOf]

theorem not_isRegion_of_plain (hx : x.category = .plain) : ¬ x.category.IsRegion := by
  simp [Category.IsRegion, hx]

/-- A character that is left plain moves what follows. -/
theorem regionsOf_leavePlain : regionsOf i (Grammar.leavePlain c xs) = regionsOf (i + 1) xs := by
  rcases Grammar.leavePlain_cases c xs with ⟨-, he⟩ | ⟨y, ys, rfl, hy, he⟩
  · rw [he, regionsOf_cons_of_not_isRegion (not_isRegion_of_plain rfl),
      String.length_ofList, List.length_singleton]
  · rw [he, regionsOf_cons_of_not_isRegion (not_isRegion_of_plain rfl),
      regionsOf_cons_of_not_isRegion (not_isRegion_of_plain hy)]
    have hlength : (String.ofList (c :: y.text.toList)).length = 1 + y.text.length := by
      rw [String.length_ofList, List.length_cons, length_text, Nat.add_comm]
    rw [hlength, Nat.add_assoc]

end Span

namespace Language.Sql

open Pattern Reading

/-- The comment or literal that the text starts with. A comment between stars ends behind the first
star and slash, one behind dashes at the end of its line. -/
def region? : List Char → Option Span
  | '/' :: '*' :: s => some ⟨.comment, String.ofList ('/' :: '*' :: through ['*', '/'] s)⟩
  | '-' :: '-' :: s => some ⟨.comment, String.ofList ('-' :: '-' :: s.takeWhile (· != '\n'))⟩
  | '\'' :: s => some ⟨.string, String.ofList ('\'' :: throughUndoubled '\'' s)⟩
  | '"' :: s => some ⟨.string, String.ofList ('"' :: throughUnescaped '"' (· == '\n') s)⟩
  | _ => none

/-- The regions of a text from an offset on, with `inside` characters of an open region still to
come. -/
def regionsFrom : (inside : Nat) → (offset : Nat) → List Char → List (Nat × Span)
  | _, _, [] => []
  | inside + 1, i, _ :: s => regionsFrom inside (i + 1) s
  | 0, i, c :: s =>
    match region? (c :: s) with
    | some x => (i, x) :: regionsFrom (x.text.length - 1) (i + 1) s
    | none => regionsFrom 0 (i + 1) s

/-- The comments and literals of a text with their offsets. -/
def regions (s : List Char) : List (Nat × Span) := regionsFrom 0 0 s

variable {c : Char} {s w r : List Char} {i : Nat} {x : Span}

def opening : List Char := ['/', '-', '\'', '"']

theorem region?_of_notMem (h : c ∉ opening) : region? (c :: s) = none := by
  unfold region?
  split <;> simp_all [opening]

theorem regionsFrom_inside (w r : List Char) (i : Nat) :
    regionsFrom w.length i (w ++ r) = regionsFrom 0 (i + w.length) r := by
  induction w generalizing i with
  | nil => rfl
  | cons c w ih =>
    rw [List.length_cons, List.cons_append, regionsFrom, ih]
    congr 1
    omega

theorem regionsFrom_of_some (h : region? (w ++ r) = some x) (hx : x.text.toList = w) (hw : w ≠ []) :
    regionsFrom 0 i (w ++ r) = (i, x) :: regionsFrom 0 (i + x.text.length) r := by
  obtain ⟨c, v, rfl⟩ := List.exists_cons_of_ne_nil hw
  have hlength : x.text.length = v.length + 1 := by rw [← Span.length_text, hx, List.length_cons]
  rw [List.cons_append] at h ⊢
  rw [regionsFrom, h]
  simp only [hlength, Nat.add_one_sub_one, regionsFrom_inside]
  congr 2
  omega

theorem regionsFrom_of_none (h : region? (c :: s) = none) :
    regionsFrom 0 i (c :: s) = regionsFrom 0 (i + 1) s := by
  rw [regionsFrom, h]

theorem regionsFrom_of_forall_notMem (h : ∀ c ∈ w, c ∉ opening) :
    regionsFrom 0 i (w ++ r) = regionsFrom 0 (i + w.length) r := by
  induction w generalizing i with
  | nil => rfl
  | cons c w ih =>
    obtain ⟨hc, hw⟩ := List.forall_mem_cons.mp h
    rw [List.cons_append, regionsFrom_of_none (region?_of_notMem hc), ih hw, List.length_cons]
    congr 1
    omega

/-- No region opens in a text that none opens at the start of, nor any of its other characters. -/
theorem regionsFrom_passed (h : region? (w ++ r) = none) (hw : ∀ c ∈ w.tail, c ∉ opening) :
    regionsFrom 0 i (w ++ r) = regionsFrom 0 (i + w.length) r := by
  cases w with
  | nil => rfl
  | cons c w =>
    have hrest : regionsFrom 0 (i + 1) (w ++ r) = regionsFrom 0 (i + 1 + w.length) r :=
      regionsFrom_of_forall_notMem hw
    rw [List.cons_append] at h ⊢
    rw [regionsFrom_of_none h, hrest, List.length_cons]
    congr 1
    omega

/-- What a rule takes is the region that opens at its place, or else nothing in it opens a region
behind its first character. -/
inductive Part (r : Rule) : Prop
  | region (hp : r.priority ≤ Priority.string) (hc : r.category.IsRegion)
    (h : ∀ s t, r.pattern.match? s = some t →
      region? s.rest = some ⟨r.category, String.ofList (s.textTo t)⟩)
  | other (hp : Priority.string < r.priority) (hc : ¬ r.category.IsRegion)
    (h : ∀ s t, r.pattern.match? s = some t → ∀ c ∈ (s.textTo t).tail, c ∉ opening)

variable {u t : Cursor}

theorem reads_dashComment : Reads (all [text "--", star notNewline])
    (.openedBy ['-', '-'] fun s => s.takeWhile (· != '\n')) :=
  reads_lineComment (by simp)

theorem reads_sqlOperator : Reads sqlOperator
    (orElse (andThen (one (CharSet.chars "<>!=").mem) (maybe (exactly "=".toList)))
      (orElse (exactly "<>".toList)
        (orElse (exactly "||".toList) (one (CharSet.chars "+-*/%,;.()").mem)))) :=
  .alt (.set_seq (fun _ => rfl) (Reads.text "=").optional)
    (.alt (.text "<>") (.alt (.text "||") (.set fun _ => rfl)))

/-- Behind its first character an operator holds none that a region opens with. -/
theorem sqlOperator_tail (h : sqlOperator.match? u = some t) :
    ∀ c ∈ (u.textTo t).tail, c ∉ opening := by
  have hread := reads_sqlOperator.textTo h
  generalize u.textTo t = w at hread
  simp only [orElse_eq_some, andThen_eq_some, one_eq_some, maybe, exactly_eq_some,
    Option.some.injEq] at hread
  rcases hread with
      ⟨_, _, ⟨c, _, -, -, rfl⟩, hequals, rfl⟩ | ⟨-, ⟨-, rfl⟩ | ⟨-, ⟨-, rfl⟩ | ⟨-, c, _, -, -, rfl⟩⟩⟩
  · rcases hequals with ⟨-, rfl⟩ | ⟨-, rfl⟩
    · simp [opening]
    · exact List.forall_mem_nil _
  · simp [opening]
  · simp [opening]
  · exact List.forall_mem_nil _

/-- A rule whose matches are read as something opened by a fixed text finds a region there. -/
theorem Part.of_reads {r : Rule} {g : List Char → List Char} (hp : r.priority ≤ Priority.string)
    (hc : r.category.IsRegion) (hread : Reads r.pattern (.openedBy w g))
    (hregion : ∀ v, region? (w ++ v) = some ⟨r.category, String.ofList (w ++ g v)⟩) : Part r := by
  refine .region hp hc fun s t h => ?_
  obtain ⟨v, hv, htext⟩ := openedBy_eq_some.mp (hread.textTo h)
  rw [hv, hregion, htext]

theorem Part.of_takes {r : Rule} (hp : Priority.string < r.priority)
    (hc : ¬ r.category.IsRegion)
    (htakes : opening.any r.pattern.takes = false) : Part r := by
  refine .other hp hc fun s t h c hmem hopen => ?_
  obtain ⟨v, ⟨passed, hpassed, hall⟩, hv⟩ := reachesBy_run h
  obtain rfl := Option.some.inj hv
  rw [hpassed.textTo] at hmem
  exact absurd (hall c (List.mem_of_mem_tail hmem)) (List.any_eq_false.mp htakes c hopen)

/-- Words of letters hold nothing that a region opens with, whatever their case. -/
theorem takes_wordsAnyCase {names : List String}
    (h : names.all (fun w => w.toList.all fun d => !opening.any (CharSet.anyCase d).mem) = true) :
    opening.any (wordsAnyCase names).takes = false := by
  rw [List.any_eq_false]
  intro c hc
  have hwords : (wordsAnyCase names).takes c = true ↔
      ∃ w ∈ names, ∃ d ∈ w.toList, (CharSet.anyCase d).mem c = true := takes_spelled
  rw [hwords]
  rintro ⟨w, hw, d, hd, hmem⟩
  have hnone := List.all_eq_true.mp (List.all_eq_true.mp h w hw) d hd
  rw [Bool.not_eq_true', List.any_eq_false] at hnone
  exact hnone c hc hmem

theorem mem_builtin_sql : sql ∈ builtin := by simp [builtin]

theorem part_of_mem : ∀ r ∈ sql.rules, Part r := by
  apply Grammar.forall_mem_ofRules
  simp only [List.forall_mem_cons, List.not_mem_nil, false_imp_iff, implies_true, and_true]
  refine ⟨?block, ?dashes, ?quoted, ?doubleQuoted, ?number, ?keyword, ?builtin, ?operator⟩
  case block => exact .of_reads (by decide) (.inl rfl) reads_blockComment fun _ => rfl
  case dashes => exact .of_reads (by decide) (.inl rfl) reads_dashComment fun _ => rfl
  case quoted => exact .of_reads (by decide) (.inr rfl) reads_sqlQuoted fun _ => rfl
  case doubleQuoted => exact .of_reads (by decide) (.inr rfl) reads_doubleQuoted fun _ => rfl
  case number => exact .of_takes (by decide) (by decide) (by decide +kernel)
  case keyword => exact .of_takes (by decide) (by decide) (takes_wordsAnyCase (by decide +kernel))
  case builtin => exact .of_takes (by decide) (by decide) (takes_wordsAnyCase (by decide +kernel))
  case operator => exact .other (by decide) (by decide) fun _ _ => sqlOperator_tail

/-- Where a region opens, a rule for regions matches. -/
theorem exists_rule_of_region? (h : region? u.rest = some x) :
    ∃ q ∈ sql.rules, q.priority ≤ Priority.string ∧ q.matchesAt u = true := by
  unfold region? at h
  split at h
  · rename_i s hs
    exact ⟨_, Grammar.mem_byPriority.mpr (.head _), by decide, reads_blockComment.matchesAt hs⟩
  · rename_i s hs
    exact ⟨_, Grammar.mem_byPriority.mpr (.tail _ (.head _)), by decide,
      reads_dashComment.matchesAt hs⟩
  · rename_i s hs
    exact ⟨_, Grammar.mem_byPriority.mpr (.tail _ (.tail _ (.head _))), by decide,
      reads_sqlQuoted.matchesAt hs⟩
  · rename_i s hs
    exact ⟨_, Grammar.mem_byPriority.mpr (.tail _ (.tail _ (.tail _ (.head _)))), by decide,
      reads_doubleQuoted.matchesAt hs⟩
  · exact absurd h (by simp)

variable {q : Rule} {xs : List Span}

/-- Where a rule is taken that is not for regions, none opens. -/
theorem region?_eq_none (h : Grammar.Takes sql.rules u q t) (hp : Priority.string < q.priority) :
    region? u.rest = none := by
  cases hregion : region? u.rest with
  | none => rfl
  | some x =>
    obtain ⟨p, hmem, hle, hmatch⟩ := exists_rule_of_region? hregion
    have hleast := h.least p hmem hmatch
    omega

/-- The comments and literals of a walk are the regions that the machine finds. -/
theorem regionsOf_walk (h : Grammar.Walks sql.rules u xs) (i : Nat) :
    Span.regionsOf i xs = regionsFrom 0 i u.rest := by
  induction h generalizing i with
  | finish h =>
    rw [h]
    rfl
  | @take s t q xs ht _ ih =>
    have hrest : s.rest = s.textTo t ++ t.rest :=
      (Rule.reaches_match? ht.isMatch).textTo_append.symm
    cases part_of_mem q ht.mem with
    | region _ hc h =>
      have hne := (neverEmpty_of_mem_builtin mem_builtin_sql q ht.mem).textTo_ne_nil ht.isMatch
      have hregion := h s t ht.isMatch
      rw [hrest] at hregion
      rw [Span.regionsOf_cons_of_isRegion hc, ih, hrest,
        regionsFrom_of_some hregion String.toList_ofList hne]
    | other hp hc h =>
      have hnone := region?_eq_none ht hp
      rw [hrest] at hnone
      rw [Span.regionsOf_cons_of_not_isRegion hc, ih, hrest,
        regionsFrom_passed hnone (h s t ht.isMatch), String.length_ofList]
  | @leave s t c xs hn hc _ ih =>
    have hrest : s.rest = c :: t.rest := hc.rest
    have hnone : region? s.rest = none := by
      rw [Option.eq_none_iff_forall_ne_some]
      intro x hx
      obtain ⟨q, hq, -, hmatch⟩ := exists_rule_of_region? hx
      simp [Rule.matchesAt, hn q hq] at hmatch
    rw [hrest] at hnone
    rw [Span.regionsOf_leavePlain, ih, hrest, regionsFrom_of_none hnone]

/-- The comments and literals of SQL code are those that the machine finds, at the same offsets. -/
theorem regions_tokens (code : String) : Span.regionsOf 0 (sql.tokens code) = regions code.toList :=
  regionsOf_walk (Grammar.walks_tokens mem_builtin_sql code) 0

/-- Openers inside regions count for nothing, and a doubled quote does not end a literal. -/
example : regions "a-'--''/*' /*'*/ -- \"".toList =
    [(2, ⟨.string, "'--''/*'"⟩), (11, ⟨.comment, "/*'*/"⟩), (17, ⟨.comment, "-- \""⟩)] := by
  decide +kernel

end Language.Sql

end FencedChat
