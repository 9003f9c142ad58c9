import FencedChat.Proofs.Grammar.Walk
import FencedChat.Proofs.Language.Quoted

/-!
Quoted literals unit by unit. A backslash and the character after it are a unit, and so is any other
character that a literal can hold. No text starts with two units, so its units can be taken off in
one way only, and a literal is the longest run of them between its quotes, wherever the search for a
match may have gone back.
-/

namespace FencedChat.Language

open Pattern Reading

/-- The kinds of quoted literals that several languages share. -/
inductive Quotation
  | double
  | single
  | backtick
  deriving DecidableEq, Repr

namespace Quotation

def quote : Quotation → Char
  | double => '"'
  | single => '\''
  | backtick => '`'

def pattern : Quotation → Pattern
  | double => doubleQuoted
  | single => singleQuoted
  | backtick => backtickQuoted

/-- Whether a literal that is not closed ends before a character. -/
def endsBefore : Quotation → Char → Bool
  | double => (· == '\n')
  | single => (· == '\n')
  | backtick => fun _ => false

/-- Whether a character is in no literal of the kind unless a backslash stands before it. -/
def Stops (k : Quotation) (c : Char) : Prop := c = k.quote ∨ k.endsBefore c = true

inductive IsUnit (k : Quotation) : List Char → Prop
  | escaped (c : Char) : k.IsUnit ['\\', c]
  | plain (c : Char) (hb : c ≠ '\\') (hc : ¬ k.Stops c) : k.IsUnit [c]

structure IsRun (k : Quotation) (us : List (List Char)) (s : List Char) : Prop where
  units : ∀ u ∈ us, k.IsUnit u
  starts : us.flatten <+: s

/-- A run of units that every other run at the start of the text is a part of. -/
structure IsLongestRun (k : Quotation) (us : List (List Char))
    (s : List Char) : Prop extends k.IsRun us s where
  longest : ∀ vs, k.IsRun vs s → vs <+: us

def closing (k : Quotation) (s : List Char) : List Char :=
  if s.head? = some k.quote then [k.quote] else []

/-- Whether a text escapes the character behind it. -/
def Escapes (v : List Char) : Prop := ¬ Even (finalBackslashes v)

variable {k : Quotation} {c : Char} {a b r s u v : List Char} {us : List (List Char)}

theorem quote_ne_backslash (k : Quotation) : k.quote ≠ '\\' := by cases k <;> decide

theorem Stops.ne_backslash (h : k.Stops c) : c ≠ '\\' := by
  rintro rfl
  rcases h with h | h
  · exact k.quote_ne_backslash h.symm
  · cases k <;> exact absurd h (by decide)

/-- A text starts with one unit at most. -/
theorem IsUnit.unique (hu : k.IsUnit u) (hv : k.IsUnit v) (h : u <+: s) (h' : v <+: s) : u = v := by
  obtain ⟨r, rfl⟩ := h
  cases hu with
  | escaped c =>
    cases hv with
    | escaped d =>
      obtain ⟨-, hd⟩ := List.cons_prefix_cons.mp h'
      rw [(List.cons_prefix_cons.mp hd).1]
    | plain d hb _ => exact absurd (List.cons_prefix_cons.mp h').1 hb
  | plain c hb _ =>
    cases hv with
    | escaped d => exact absurd (List.cons_prefix_cons.mp h').1.symm hb
    | plain d _ _ => rw [(List.cons_prefix_cons.mp h').1]

/-- A text that starts with no unit. -/
def IsStuck (k : Quotation) (r : List Char) : Prop := ∀ u, k.IsUnit u → ¬ u <+: r

theorem isStuck_nil : k.IsStuck [] := by
  rintro u (⟨c⟩ | ⟨c, _, _⟩) h
  · simp at h
  · simp at h

/-- A backslash with nothing behind it is no unit. -/
theorem isStuck_backslash : k.IsStuck ['\\'] := by
  rintro u (⟨c⟩ | ⟨c, hb, _⟩) h
  · simp at h
  · exact hb (List.cons_prefix_cons.mp h).1

theorem Stops.isStuck (hc : k.Stops c) (r : List Char) : k.IsStuck (c :: r) := by
  rintro u (⟨d⟩ | ⟨d, _, hd⟩) h
  · exact hc.ne_backslash (List.cons_prefix_cons.mp h).1.symm
  · exact hd ((List.cons_prefix_cons.mp h).1 ▸ hc)

theorem isStuck_closing (k : Quotation) (r : List Char) : k.IsStuck (k.closing r) := by
  unfold closing
  split
  · exact Stops.isStuck (.inl rfl) []
  · exact isStuck_nil

/-- Units are the longest run if none starts behind them. -/
theorem IsLongestRun.of_isStuck (hus : ∀ u ∈ us, k.IsUnit u) (hr : k.IsStuck r) :
    k.IsLongestRun us (us.flatten ++ r) where
  units := hus
  starts := List.prefix_append _ r
  longest := by
    intro vs hvs
    induction us generalizing vs with
    | nil =>
      cases vs with
      | nil => exact List.prefix_rfl
      | cons v vs =>
        exact absurd ((List.prefix_append v _).trans hvs.starts) (hr v (hvs.units v (by simp)))
    | cons u us ih =>
      cases vs with
      | nil => exact List.nil_prefix
      | cons v vs =>
        obtain ⟨hu, hus⟩ := List.forall_mem_cons.mp hus
        obtain ⟨hv, hvs'⟩ := List.forall_mem_cons.mp hvs.units
        have hstarts := hvs.starts
        rw [List.flatten_cons, List.flatten_cons, List.append_assoc] at hstarts
        -- both runs start with the same unit, so nothing is left to choose
        obtain rfl := hu.unique hv (List.prefix_append u _) ((List.prefix_append v _).trans hstarts)
        exact List.cons_prefix_cons.mpr ⟨rfl,
          ih hus vs ⟨hvs', (List.prefix_append_right_inj u).mp hstarts⟩⟩

/-- A scan for the closing quote takes units as long as there are any, and then the quote. -/
theorem exists_units (k : Quotation) (s : List Char) : ∃ (us : List (List Char)) (r : List Char),
    (∀ u ∈ us, k.IsUnit u) ∧ k.IsStuck r ∧ s = us.flatten ++ r ∧
      throughUnescaped k.quote k.endsBefore s = us.flatten ++ k.closing r := by
  fun_induction throughUnescaped k.quote k.endsBefore s with
  | case1 => exact ⟨[], [], List.forall_mem_nil _, isStuck_nil, rfl, rfl⟩
  | case2 d r ih =>
    obtain ⟨us, r', hus, hr, hs, ht⟩ := ih
    exact ⟨['\\', d] :: us, r', List.forall_mem_cons.mpr ⟨.escaped d, hus⟩, hr, by rw [hs]; rfl,
      by rw [ht]; rfl⟩
  | case3 =>
    refine ⟨[], ['\\'], List.forall_mem_nil _, isStuck_backslash, rfl, ?_⟩
    simp [closing, k.quote_ne_backslash.symm]
  | case4 s =>
    refine ⟨[], k.quote :: s, List.forall_mem_nil _, Stops.isStuck (.inl rfl) s, rfl, ?_⟩
    simp [closing]
  | case5 c s hb hq he =>
    refine ⟨[], c :: s, List.forall_mem_nil _, Stops.isStuck (.inr he) s, rfl, ?_⟩
    simp [closing, hq]
  | case6 c s hb hq he ih =>
    obtain ⟨us, r, hus, hr, hs, ht⟩ := ih
    have hc : ¬ k.Stops c := fun h => h.elim hq he
    exact ⟨[c] :: us, r, List.forall_mem_cons.mpr ⟨.plain c hb hc, hus⟩, hr, by rw [hs]; rfl,
      by rw [ht]; rfl⟩

theorem reads_pattern (k : Quotation) :
    Reads k.pattern (.openedBy [k.quote] (throughUnescaped k.quote k.endsBefore)) := by
  cases k with
  | double => exact reads_doubleQuoted
  | single => exact reads_singleQuoted
  | backtick =>
    apply reads_quoted
    · simp [quote]
    · decide
    · intro c
      simp [CharSet.mem_butChars, quote, endsBefore]

/-- Units end with an even run of backslashes. -/
theorem not_escapes_flatten (hus : ∀ u ∈ us, k.IsUnit u) : ¬ Escapes us.flatten := by
  rw [Escapes, not_not]
  induction us with
  | nil => exact Even.zero
  | cons u us ih =>
    obtain ⟨hu, hus'⟩ := List.forall_mem_cons.mp hus
    rw [List.flatten_cons]
    cases hu with
    | escaped c => exact (even_finalBackslashes_pair c us.flatten).mpr (ih hus')
    | plain c hb _ => exact (finalBackslashes_cons_of_ne hb).symm ▸ ih hus'

/-- What stops literals is in units only behind a backslash that takes it. -/
theorem escapes_of_flatten_append (hus : ∀ u ∈ us, k.IsUnit u) (hc : k.Stops c) (hr : c ∉ r)
    (h : us.flatten ++ r = a ++ c :: b) : Escapes a := by
  induction us generalizing a with
  | nil =>
    obtain rfl : r = a ++ c :: b := h
    simp at hr
  | cons u us ih =>
    obtain ⟨hu, hus'⟩ := List.forall_mem_cons.mp hus
    rw [List.flatten_cons, List.append_assoc] at h
    cases hu with
    | escaped d =>
      -- the character is no backslash; if it is the other half of the unit, the text before it
      -- ends there
      match a with
      | [] => exact absurd (List.cons.inj h).1.symm hc.ne_backslash
      | [e] =>
        obtain rfl : '\\' = e := (List.cons.inj h).1
        rw [Escapes]
        decide
      | e :: d' :: a =>
        obtain ⟨rfl, rfl, hrest⟩ : '\\' = e ∧ d = d' ∧ us.flatten ++ r = a ++ c :: b := by
          simpa using h
        rw [Escapes, even_finalBackslashes_pair]
        exact ih hus' hrest
    | plain d hb hd =>
      cases a with
      | nil => exact absurd ((List.cons.inj h).1 ▸ hc) hd
      | cons e a =>
        obtain ⟨rfl, hrest⟩ := List.cons.inj h
        rw [Escapes, finalBackslashes_cons_of_ne hb]
        exact ih hus' hrest

/-- The opening quote, units of the text behind it, and the closing quote if it comes next. -/
def literal (k : Quotation) (us : List (List Char)) (v : List Char) : List Char :=
  k.quote :: (us.flatten ++ k.closing (v.drop us.flatten.length))

theorem closing_closing (k : Quotation) (r : List Char) :
    k.closing (k.closing r) = k.closing r := by
  unfold closing
  split
  · simp
  · simp

theorem eq_quote_of_mem_closing (h : c ∈ k.closing r) : c = k.quote := by
  unfold closing at h
  split at h
  · exact List.mem_singleton.mp h
  · exact absurd h List.not_mem_nil

/-- The scan takes the longest run of units, whichever way that run was found. -/
theorem IsLongestRun.throughUnescaped_eq (h : k.IsLongestRun us v) :
    k.quote :: throughUnescaped k.quote k.endsBefore v = k.literal us v := by
  obtain ⟨vs, r, hvs, hr, hv, hscan⟩ := k.exists_units v
  have hlongest : k.IsLongestRun vs v := hv ▸ IsLongestRun.of_isStuck hvs hr
  have hle := (hlongest.longest us h.toIsRun).length_le
  obtain rfl : vs = us := (h.longest vs hlongest.toIsRun).eq_of_length_le hle
  rw [hscan, literal, hv, List.drop_left]

theorem exists_isLongestRun (k : Quotation) (v : List Char) : ∃ us, k.IsLongestRun us v := by
  obtain ⟨us, r, hus, hr, rfl, -⟩ := k.exists_units v
  exact ⟨us, .of_isStuck hus hr⟩

/-- Where a quote stands, the pattern takes the literal of the longest run of units behind it. -/
theorem exists_match?_eq_some {s : Cursor} (hs : s.rest = k.quote :: v) (h : k.IsLongestRun us v) :
    ∃ t, k.pattern.match? s = some t ∧ s.textTo t = k.literal us v := by
  obtain ⟨t, ht, hmatch⟩ := (k.reads_pattern).taken s _ (openedBy_eq_some.mpr ⟨v, hs, rfl⟩)
  exact ⟨t, hmatch, ht.textTo.trans h.throughUnescaped_eq⟩

/-- The units of a literal are the longest run in the literal alone as well. -/
theorem IsLongestRun.literal_eq (h : k.IsLongestRun us v) :
    ∃ w, k.literal us v = k.quote :: w ∧ k.IsLongestRun us w ∧ k.literal us w = k.literal us v := by
  refine ⟨_, rfl, .of_isStuck h.units (k.isStuck_closing _), ?_⟩
  rw [literal, List.drop_left, closing_closing, literal]

/-- A character that ends a literal which is not closed is in a literal only behind a backslash that
takes it. -/
theorem IsLongestRun.escapes_of_endsBefore (h : k.IsLongestRun us v) (hc : k.endsBefore c = true)
    (hv : k.literal us v = a ++ c :: b) : Escapes a := by
  have hq : c ≠ k.quote := by
    rintro rfl
    cases k <;> exact absurd hc (by decide)
  cases a with
  | nil => exact absurd (List.cons.inj hv).1.symm hq
  | cons q a =>
    obtain ⟨rfl, hrest⟩ := List.cons.inj hv
    rw [Escapes, finalBackslashes_cons_of_ne k.quote_ne_backslash]
    exact escapes_of_flatten_append h.units (.inr hc)
      (fun hm => hq (eq_quote_of_mem_closing hm)) hrest

/-- A quoted literal is what a scan unit by unit takes. Where a quote stands the pattern always
matches, and takes the quote, the longest run of units behind it, and the closing quote if it comes
next. So no backslash takes the closing quote; outside backticks a newline stands in a literal only
behind a backslash that takes it; and the literal alone is matched as a whole. -/
theorem match?_by_units (k : Quotation) (before v : List Char) :
    ∃ us t, k.IsLongestRun us v ∧ k.pattern.match? (.between before (k.quote :: v)) = some t ∧
      (Cursor.between before (k.quote :: v)).textTo t = k.literal us v ∧
      ¬ Escapes (k.quote :: us.flatten) ∧
      (k ≠ backtick → ∀ a b, k.literal us v = a ++ '\n' :: b → Escapes a) ∧
      ∃ t', k.pattern.match? (.start (k.literal us v)) = some t' ∧
        (Cursor.start (k.literal us v)).textTo t' = k.literal us v := by
  obtain ⟨us, h⟩ := k.exists_isLongestRun v
  obtain ⟨t, hmatch, htext⟩ := exists_match?_eq_some (s := .between before (k.quote :: v)) rfl h
  obtain ⟨w, hw, hlongest, hsame⟩ := h.literal_eq
  obtain ⟨t', hmatch', htext'⟩ := exists_match?_eq_some (s := .start (k.literal us v)) hw hlongest
  refine ⟨us, t, h, hmatch, htext, ?_, ?_, t', hmatch', htext'.trans hsame⟩
  · rw [Escapes, finalBackslashes_cons_of_ne k.quote_ne_backslash]
    exact not_escapes_flatten h.units
  · intro hk a b hv
    apply h.escapes_of_endsBefore _ hv
    cases k with
    | double => decide
    | single => decide
    | backtick => exact absurd rfl hk

end Quotation

end FencedChat.Language
