import FencedChat.Language.Script
import FencedChat.Proofs.Highlight.Tiling
import FencedChat.Proofs.Language.Quoted

/-!
Literals between three quotes. The search for the closing quotes does not know backslashes, so a
literal ends at the first three quotes even if a backslash stands before them. Where the run of
backslashes before them has an even length, or nothing follows them, a reader that takes each
backslash with the character after it ends at the same place.
-/

namespace FencedChat

namespace Reading

variable {q c d : Char} {r s v w : List Char}

/-- All text up to and including the first place where the given text starts, or all there is, where
a backslash goes with the character after it. -/
def throughUnescapedText (w : List Char) : List Char → List Char
  | [] => []
  | c :: s =>
    if w <+: c :: s then w
    else if c = '\\' then
      match s with
      | d :: r => c :: d :: throughUnescapedText w r
      | [] => [c]
    else c :: throughUnescapedText w s

/-- The given text starts at no place before the one between two texts. -/
def FirstBehind (w v s : List Char) : Prop := ∀ u, u <:+ v → u ≠ [] → ¬ w <+: u ++ s

theorem firstBehind_cons :
    FirstBehind w (c :: v) s ↔ ¬ w <+: c :: v ++ s ∧ FirstBehind w v s := by
  simp only [FirstBehind, List.suffix_cons_iff]
  constructor
  · intro h
    exact ⟨h _ (.inl rfl) (List.cons_ne_nil c v), fun u hu => h u (.inr hu)⟩
  · rintro ⟨hc, hv⟩ u (rfl | hu) hne
    · exact hc
    · exact hv u hu hne

theorem FirstBehind.nil : FirstBehind w [] s := fun _ hu hne => absurd (List.suffix_nil.mp hu) hne

/-- A text holds the given one nowhere, or it is taken through the first place. -/
theorem through_cases (w s : List Char) :
    through w s = s ∧ FirstBehind w s [] ∨
      ∃ v r, s = v ++ (w ++ r) ∧ through w s = v ++ w ∧ FirstBehind w v (w ++ r) := by
  fun_induction through w s with
  | case1 => exact .inl ⟨rfl, .nil⟩
  | case2 c s h =>
    obtain ⟨r, hr⟩ := h
    exact .inr ⟨[], r, hr.symm, rfl, .nil⟩
  | case3 c s h ih =>
    rcases ih with ⟨he, hfirst⟩ | ⟨v, r, rfl, he, hfirst⟩
    · refine .inl ⟨by rw [he], firstBehind_cons.mpr ⟨?_, hfirst⟩⟩
      rwa [List.append_nil]
    · exact .inr ⟨c :: v, r, rfl, by rw [he, List.cons_append], firstBehind_cons.mpr ⟨h, hfirst⟩⟩

/-- A text that holds the given one nowhere is taken as a whole. -/
theorem throughUnescapedText_of_firstBehind (h : FirstBehind w s []) :
    throughUnescapedText w s = s := by
  fun_induction throughUnescapedText w s with
  | case1 => rfl
  | case2 c s hw =>
    obtain ⟨hno, -⟩ := firstBehind_cons.mp h
    rw [List.append_nil] at hno
    exact absurd hw hno
  | case3 d r hw ih =>
    obtain ⟨-, htail⟩ := firstBehind_cons.mp h
    obtain ⟨-, hrest⟩ := firstBehind_cons.mp htail
    rw [ih hrest]
  | case4 => rfl
  | case5 c s hw hc ih =>
    obtain ⟨-, hrest⟩ := firstBehind_cons.mp h
    rw [ih hrest]

theorem throughUnescapedText_ne_nil (hw : w ≠ []) (hs : s ≠ []) :
    throughUnescapedText w s ≠ [] := by
  fun_cases throughUnescapedText w s with
  | case1 => exact hs
  | case2 => exact hw
  | case3 => exact List.cons_ne_nil _ _
  | case4 => exact List.cons_ne_nil _ _
  | case5 => exact List.cons_ne_nil _ _

/-- Up to the first place where three quotes start, the text is taken pair by pair. It ends there
unless the last backslash before it takes the first of the quotes. -/
theorem throughUnescapedText_append (hq : q ≠ '\\') (hs : [q, q, q] <+: q :: r)
    (hv : FirstBehind [q, q, q] v (q :: r)) : throughUnescapedText [q, q, q] (v ++ q :: r) =
      v ++ if Even (finalBackslashes v) then [q, q, q]
        else q :: throughUnescapedText [q, q, q] r := by
  generalize hx : v ++ q :: r = x
  fun_induction throughUnescapedText [q, q, q] x generalizing v with
  | case1 => simp at hx
  | case2 c s hw =>
    cases v with
    | nil => rfl
    | cons d v =>
      rw [← hx] at hw
      exact absurd hw (firstBehind_cons.mp hv).1
  | case3 d s hw ih =>
    match v with
    | [] => exact absurd (List.cons.inj hx).1 hq
    | [e] =>
      obtain ⟨rfl, rfl, rfl⟩ : e = '\\' ∧ q = d ∧ r = s := by simpa using hx
      rfl
    | e :: f :: v =>
      obtain ⟨rfl, rfl, hrest⟩ : e = '\\' ∧ f = d ∧ v ++ q :: r = s := by simpa using hx
      have hfirst := (firstBehind_cons.mp (firstBehind_cons.mp hv).2).2
      rw [ih hfirst hrest]
      simp only [even_finalBackslashes_pair, List.cons_append]
  | case4 =>
    cases v with
    | nil => exact absurd (List.cons.inj hx).1 hq
    | cons d v => exact absurd (List.cons.inj hx).2 (by simp)
  | case5 c s hw hc ih =>
    cases v with
    | nil =>
      rw [List.nil_append] at hx
      exact absurd (hx ▸ hs) hw
    | cons d v =>
      obtain ⟨rfl, rfl⟩ := List.cons.inj hx
      rw [ih (firstBehind_cons.mp hv).2 rfl, finalBackslashes_cons_of_ne hc]
      rfl

theorem throughUnescapedText_cons (hc : c ≠ '\\') : throughUnescapedText w (c :: s) =
    if w <+: c :: s then w else c :: throughUnescapedText w s := by
  rw [throughUnescapedText.eq_def]
  simp only [hc, if_false]

/-- Of two quotes and what follows them no more than the quotes is taken if nothing follows them. -/
theorem throughUnescapedText_two_iff (hq : q ≠ '\\') :
    throughUnescapedText [q, q, q] (q :: q :: r) = [q, q] ↔ r = [] := by
  constructor
  · intro h
    by_contra hr
    have hrest : throughUnescapedText [q, q, q] r ≠ [] := throughUnescapedText_ne_nil (by simp) hr
    rw [throughUnescapedText_cons hq, throughUnescapedText_cons hq] at h
    split at h
    · simp at h
    · split at h
      · simp at h
      · simp [hrest] at h
  · rintro rfl
    simp [throughUnescapedText, hq]

/-- The first three quotes are those that a reader of backslashes ends at if nothing follows them or
the run of backslashes before them is even. -/
theorem through_eq_iff (hq : q ≠ '\\') (hs : s = through [q, q, q] s ++ r) :
    through [q, q, q] s = throughUnescapedText [q, q, q] s ↔
      r = [] ∨ ∃ v, through [q, q, q] s = v ++ [q, q, q] ∧ Even (finalBackslashes v) := by
  rcases through_cases [q, q, q] s with ⟨he, hfirst⟩ | ⟨v, r', hv, he, hfirst⟩
  · have hr : r = [] := by
      rw [he] at hs
      simpa using hs
    rw [he, throughUnescapedText_of_firstBehind hfirst]
    exact ⟨fun _ => .inl hr, fun _ => rfl⟩
  · obtain rfl : r' = r := by
      rw [he, List.append_assoc] at hs
      exact List.append_cancel_left (List.append_cancel_left (hv.symm.trans hs))
    have hreader : throughUnescapedText [q, q, q] (v ++ ([q, q, q] ++ r')) =
        v ++ if Even (finalBackslashes v) then [q, q, q]
          else q :: throughUnescapedText [q, q, q] (q :: q :: r') :=
      throughUnescapedText_append hq (List.prefix_append [q, q, q] r') hfirst
    rw [← hv] at hreader
    rw [he, hreader, List.append_cancel_left_eq]
    simp only [List.append_cancel_right_eq]
    by_cases heven : Even (finalBackslashes v)
    · simp [heven]
    · have htwo : [q, q, q] = q :: throughUnescapedText [q, q, q] (q :: q :: r') ↔ r' = [] := by
        rw [List.cons_inj_right, eq_comm]
        exact throughUnescapedText_two_iff hq
      simp [heven, htwo]

end Reading

namespace Language

open Pattern Reading

variable {q : Char} {pre body r v w : List Char} {p : Pattern} {f : Reading} {s t : Cursor}

/-- The letters before a literal that say how it is read. -/
def prefixLetters : List Char := ['r', 'R', 'b', 'B', 'u', 'U', 'f', 'F']

/-- A character that literals are quoted with. -/
def IsQuote (q : Char) : Prop := q = '"' ∨ q = '\''

theorem takes_literalPrefix (c : Char) :
    literalPrefix.takes c = (CharSet.chars "rRbBuUfF").mem c := by
  simp only [literalPrefix, Pattern.optional, all, notAfter, Pattern.between, takes, Stride.takes,
    List.any_cons, List.any_nil, Bool.or_false, Bool.false_or]

theorem mem_prefixLetters {c : Char} :
    (CharSet.chars "rRbBuUfF").mem c = true ↔ c ∈ prefixLetters := by
  have hletters : "rRbBuUfF".toList = prefixLetters := by simp [prefixLetters]
  rw [CharSet.mem_chars, ← List.contains_eq_any_beq, List.contains_iff_mem, hletters]

theorem IsQuote.notMem_prefixLetters (hq : IsQuote q) : q ∉ prefixLetters := by
  rcases hq with rfl | rfl
  · decide
  · decide

theorem IsQuote.ne_backslash (hq : IsQuote q) : q ≠ '\\' := by
  rcases hq with rfl | rfl
  · decide
  · decide

/-- What is behind the prefix is read from there. -/
theorem exists_prefix (hp : Reads p f) (h : (seq literalPrefix p).match? s = some t) :
    ∃ pre r, (∀ c ∈ pre, c ∈ prefixLetters) ∧ s.rest = pre ++ r ∧
    ∃ w, f r = some w ∧ s.textTo t = pre ++ w := by
  have hrun : literalPrefix.run s (fun u => p.run u some) = some t := h
  obtain ⟨u, ⟨pre, hpre, hletters⟩, hu⟩ := reachesBy_run hrun
  have hmatch : p.match? u = some t := hu
  exact ⟨pre, u.rest, fun c hc => mem_prefixLetters.mp (takes_literalPrefix c ▸ hletters c hc),
    hpre.rest, u.textTo t, hp.textTo hmatch, hpre.textTo_of_reaches (Rule.reaches_match? hmatch)⟩

/-- The quote behind a prefix tells where the prefix ends. -/
theorem prefix_unique {q' : Char} {pre' r' : List Char} (hq : IsQuote q) (hq' : IsQuote q')
    (hpre : ∀ c ∈ pre, c ∈ prefixLetters) (hpre' : ∀ c ∈ pre', c ∈ prefixLetters)
    (h : pre ++ q :: r = pre' ++ q' :: r') : pre = pre' ∧ q = q' ∧ r = r' := by
  rcases List.append_eq_append_iff.mp h with ⟨v, hv, hr⟩ | ⟨v, hv, hr⟩
  · cases v with
    | nil =>
      obtain ⟨rfl, rfl⟩ := List.cons.inj hr
      exact ⟨by simpa using hv.symm, rfl, rfl⟩
    | cons c v =>
      obtain rfl := (List.cons.inj hr).1
      exact absurd (hpre' q (hv ▸ by simp)) hq.notMem_prefixLetters
  · cases v with
    | nil =>
      obtain ⟨rfl, rfl⟩ := List.cons.inj hr
      exact ⟨by simpa using hv, rfl, rfl⟩
    | cons c v =>
      obtain rfl := (List.cons.inj hr).1
      exact absurd (hpre q' (hv ▸ by simp)) hq'.notMem_prefixLetters

/-- Between three quotes a literal is taken through the first place where they start again. -/
def tripled (q : Char) : Reading := openedBy [q, q, q] (through [q, q, q])

/-- Between single quotes a literal is taken through the first that is not escaped, or up to the end
of the line. -/
def lined (q : Char) : Reading := openedBy [q] (throughUnescaped q (· == '\n'))

theorem reads_tripled {w : String} (hne : w ≠ "") (hw : w.toList = [q, q, q]) :
    Reads (all [text w, anything, group false (oneOf [text w, textEnd])]) (tripled q) := by
  have hread := Reads.openedBy w (reads_through hne)
  rwa [hw] at hread

theorem tripleQuoted_eq : ∃ p, tripleQuoted = seq literalPrefix p ∧
    Reads p (orElse (tripled '"') (tripled '\'')) := by
  refine ⟨_, rfl, .group (.alt (reads_tripled ?_ ?_) (reads_tripled ?_ ?_)) false⟩
  all_goals simp

theorem prefixedQuoted_eq : ∃ p, prefixedQuoted = seq literalPrefix p ∧
    Reads p (orElse (lined '"') (lined '\'')) :=
  ⟨_, rfl, .group (.alt reads_doubleQuoted reads_singleQuoted) false⟩

theorem pattern_of_string : ∀ r ∈ python.rules, r.category = .string →
    r.pattern = tripleQuoted ∨ r.pattern = prefixedQuoted := by
  apply Grammar.forall_mem_ofRules
  decide +kernel

/-- A literal is a prefix and behind it what is taken between quotes of one of the two kinds. -/
theorem exists_literal {r : Rule} (hr : r ∈ python.rules) (hc : r.category = .string)
    (h : r.pattern.match? s = some t) : ∃ pre q v w, (∀ c ∈ pre, c ∈ prefixLetters) ∧ IsQuote q ∧
      s.rest = pre ++ v ∧ s.textTo t = pre ++ w ∧ (tripled q v = some w ∨ lined q v = some w) := by
  rcases pattern_of_string r hr hc with hp | hp
  · obtain ⟨p, he, hread⟩ := tripleQuoted_eq
    rw [hp, he] at h
    obtain ⟨pre, v, hpre, hrest, w, hw, htext⟩ := exists_prefix hread h
    rcases orElse_eq_some.mp hw with hw | ⟨-, hw⟩
    · exact ⟨pre, '"', v, w, hpre, .inl rfl, hrest, htext, .inl hw⟩
    · exact ⟨pre, '\'', v, w, hpre, .inr rfl, hrest, htext, .inl hw⟩
  · obtain ⟨p, he, hread⟩ := prefixedQuoted_eq
    rw [hp, he] at h
    obtain ⟨pre, v, hpre, hrest, w, hw, htext⟩ := exists_prefix hread h
    rcases orElse_eq_some.mp hw with hw | ⟨-, hw⟩
    · exact ⟨pre, '"', v, w, hpre, .inl rfl, hrest, htext, .inr hw⟩
    · exact ⟨pre, '\'', v, w, hpre, .inr rfl, hrest, htext, .inr hw⟩

theorem mem_builtin_python : python ∈ builtin := by simp [builtin]

variable {code : String} {before after : List Span} {x : Span}

/-- A Python literal that opens with three quotes ends behind the first place where they start
again, or with the text. This is where a reader that takes each backslash with the character after
it ends exactly if nothing follows the literal or the run of backslashes before the closing quotes
is even. -/
theorem tripleQuoted_ends (h : python.tokens code = before ++ x :: after)
    (hx : x.category = .string) (hq : IsQuote q) (hpre : ∀ c ∈ pre, c ∈ prefixLetters)
    (htext : x.text.toList = pre ++ q :: q :: q :: body) :
    body = through [q, q, q] (body ++ Span.textOf after) ∧
    (body = throughUnescapedText [q, q, q] (body ++ Span.textOf after) ↔
      Span.textOf after = [] ∨ ∃ v, body = v ++ [q, q, q] ∧ Even (finalBackslashes v)) := by
  have hw := Grammar.walks_tokens mem_builtin_python code
  obtain ⟨r, s, t, hs, ht, hspan⟩ := hw.exists_takes h (by simp [hx])
  have hc : r.category = .string := by simpa [hspan] using hx
  have hx' : x.text.toList = s.textTo t := by rw [hspan, String.toList_ofList]
  have hrest := python.rest_eq h hs
  obtain ⟨pre', q', v, w, hpre', hq', hv, hw, hlit⟩ := exists_literal ht.mem hc ht.isMatch
  rw [← hx', htext] at hw
  rw [htext, hv] at hrest
  rcases hlit with hlit | hlit
  · obtain ⟨r, rfl, rfl⟩ := openedBy_eq_some.mp hlit
    obtain ⟨rfl, rfl, hbody⟩ := prefix_unique hq hq' hpre hpre' hw
    obtain rfl : body = through [q, q, q] r := by simpa using hbody
    have hr : r = through [q, q, q] r ++ Span.textOf after := by simpa using hrest
    rw [← hr]
    exact ⟨rfl, through_eq_iff hq.ne_backslash hr⟩
  · obtain ⟨r, rfl, rfl⟩ := openedBy_eq_some.mp hlit
    obtain ⟨rfl, rfl, hbody⟩ := prefix_unique hq hq' hpre hpre' hw
    have hr : r = q :: q :: body ++ Span.textOf after := by simpa using hrest
    -- the second quote closes the literal
    rw [hr, List.cons_append, throughUnescaped_quote hq.ne_backslash] at hbody
    simp at hbody

theorem tokens_twoBackslashes : python.tokens "\"\"\"a\\\\\"\"\"b" =
    [] ++ ⟨.string, "\"\"\"a\\\\\"\"\""⟩ :: [⟨.plain, "b"⟩] := by decide +kernel

/-- Of two backslashes the second is taken with the first, and the quotes behind them are not
escaped. -/
theorem tripleQuoted_ends_twoBackslashes :
    python.tokens "\"\"\"a\\\\\"\"\"b" =
      [] ++ ⟨.string, "\"\"\"a\\\\\"\"\""⟩ :: [⟨.plain, "b"⟩] ∧
    ['a', '\\', '\\', '"', '"', '"'] =
      throughUnescapedText ['"', '"', '"'] ['a', '\\', '\\', '"', '"', '"', 'b'] := by
  refine ⟨tokens_twoBackslashes, ?_⟩
  have htext :
      "\"\"\"a\\\\\"\"\"".toList = [] ++ '"' :: '"' :: '"' :: ['a', '\\', '\\', '"', '"', '"'] := by
    simp
  apply (tripleQuoted_ends tokens_twoBackslashes rfl (.inl rfl) (List.forall_mem_nil _) htext).2.mpr
  exact .inr ⟨['a', '\\', '\\'], rfl, by decide⟩

theorem tokens_oneBackslash : python.tokens "\"\"\"a\\\"\"\"b\"\"\"" =
    [] ++ ⟨.string, "\"\"\"a\\\"\"\""⟩ :: [⟨.string, "b\"\"\""⟩] := by decide +kernel

/-- Not every literal between three quotes goes on behind an escaped quote. -/
theorem not_tripleQuoted_unescaped :
    ¬ ∀ (code : String) (before after : List Span) (x : Span) (q : Char) (pre body : List Char),
      python.tokens code = before ++ x :: after → x.category = .string → IsQuote q →
      (∀ c ∈ pre, c ∈ prefixLetters) → x.text.toList = pre ++ q :: q :: q :: body →
      body = throughUnescapedText [q, q, q] (body ++ Span.textOf after) := by
  intro h
  have htext :
      "\"\"\"a\\\"\"\"".toList = [] ++ '"' :: '"' :: '"' :: ['a', '\\', '"', '"', '"'] := by
    simp
  have hbody := h _ [] _ _ '"' [] _ tokens_oneBackslash rfl (.inl rfl) (List.forall_mem_nil _) htext
  revert hbody
  decide +kernel

end Language

end FencedChat
