import FencedChat.Proofs.Pattern.Ends
import FencedChat.Proofs.Pattern.Readings

/-!
Delimited texts. A fixed text is read in one way only, a lazy search for a closing text stops where
that text starts for the first time, and greedy strides that need not give anything back go on as
long as they can.
-/

namespace FencedChat

namespace Cursor

variable {s t : Cursor} {w : List Char}

theorem step?_single_iff {c : Char} : s.step? (.single c) = some t ↔ s.Passes [c] t := by
  constructor
  · intro h
    obtain ⟨d, hd, hmem⟩ := passes_step? h
    rw [CharSet.mem_single, beq_iff_eq] at hmem
    exact hmem ▸ hd
  · intro h
    obtain ⟨p, r, n, e⟩ := s
    obtain rfl : r = c :: t.rest := h.rest
    simp only [step?, CharSet.mem_single, BEq.rfl, if_true, Option.some.injEq]
    exact ext h.prev.symm rfl

/-- The sets of the characters of a text lead behind that text. -/
theorem steps?_single_iff : s.steps? (w.map .single) = some t ↔ s.Passes w t := by
  induction w generalizing s with
  | nil =>
    rw [List.map_nil, steps?, Option.some.injEq]
    exact ⟨fun h => h ▸ .nil s, fun h => h.eq_of_nil.symm⟩
  | cons c w ih =>
    rw [List.map_cons, steps?]
    constructor
    · intro h
      cases hstep : s.step? (.single c) with
      | none => simp [hstep] at h
      | some v =>
        rw [hstep] at h
        exact (step?_single_iff.mp hstep).append (ih.mp h)
    · intro h
      obtain ⟨v, hv⟩ : ∃ v, s.Passes [c] v := by
        refine ⟨⟨some c, w ++ t.rest, (w ++ t.rest).length, rfl⟩, ⟨h.rest, rfl⟩⟩
      rw [step?_single_iff.mpr hv]
      exact ih.mpr (hv.of_append h)

theorem exists_passes_of_prefix (h : w <+: s.rest) : ∃ t, s.Passes w t := by
  obtain ⟨r, hr⟩ := h
  exact ⟨⟨w.getLast?.or s.prev, r, r.length, rfl⟩, ⟨hr.symm, rfl⟩⟩

end Cursor

namespace Reading

variable {f : Reading} {s w : List Char}

def exactly (w : List Char) : Reading := fun s => if w <+: s then some w else none

theorem exactly_eq_some {v : List Char} : exactly w s = some v ↔ w <+: s ∧ w = v := by
  simp [exactly]

theorem exactly_eq_none : exactly w s = none ↔ ¬ w <+: s := by
  simp [exactly]

def openedBy (w : List Char) (g : List Char → List Char) : Reading :=
  andThen (exactly w) fun s => some (g s)

theorem openedBy_eq_some {g : List Char → List Char} {v : List Char} :
    openedBy w g s = some v ↔ ∃ r, s = w ++ r ∧ v = w ++ g r := by
  simp only [openedBy, andThen_eq_some, exactly_eq_some, Option.some.injEq]
  constructor
  · rintro ⟨_, _, ⟨⟨r, rfl⟩, rfl⟩, rfl, rfl⟩
    exact ⟨r, rfl, by rw [List.drop_left]⟩
  · rintro ⟨r, rfl, rfl⟩
    exact ⟨w, g r, ⟨List.prefix_append w r, rfl⟩, by rw [List.drop_left], rfl⟩

/-- All text up to and including the first place where the given text starts, or all there is. -/
def through (w : List Char) : List Char → List Char
  | [] => []
  | c :: s => if w <+: c :: s then w else c :: through w s

/-- A reading again and again, at most the given number of times. -/
def takeMany (f : Reading) : Nat → List Char → List Char
  | 0, _ => []
  | n + 1, s =>
    match f s with
    | some w => w ++ takeMany f n (s.drop w.length)
    | none => []

def repeated (f : Reading) : Reading := fun s => some (takeMany f s.length s)

theorem takeMany_of_some {n : Nat} (h : f s = some w) :
    takeMany f (n + 1) s = w ++ takeMany f n (s.drop w.length) := by
  rw [takeMany, h]

theorem takeMany_of_none (h : f s = none) (n : Nat) : takeMany f n s = [] := by
  cases n with
  | zero => rfl
  | succ n => rw [takeMany, h]

end Reading

/-- A stride takes what a reading takes. -/
structure Stride.Reads (u : Stride) (f : Reading) : Prop where
  taken : ∀ s w, f s.rest = some w → ∃ t, s.Passes w t ∧ u.step? s = some t
  nothing : ∀ s, f s.rest = none → u.step? s = none

namespace Pattern

variable {p q : Pattern} {f g : Reading} {s t : Cursor} {k : Cursor → Option Cursor} {w : String}

theorem run_text {r : Cursor} :
    (text w).run s k = some r ↔ ∃ t, s.Passes w.toList t ∧ k t = some r := by
  simp only [text, run, ← Cursor.steps?_single_iff]
  cases s.steps? (w.toList.map .single) <;> simp

theorem run_text_eq_none (h : ¬ w.toList <+: s.rest) : (text w).run s k = none := by
  rw [Option.eq_none_iff_forall_ne_some]
  intro r hr
  obtain ⟨t, ht, -⟩ := run_text.mp hr
  exact h ⟨t.rest, ht.rest.symm⟩

namespace Reads

theorem text (w : String) : Reads (text w) (.exactly w.toList) where
  taken s v h := by
    obtain ⟨hw, rfl⟩ := Reading.exactly_eq_some.mp h
    obtain ⟨t, ht⟩ := Cursor.exists_passes_of_prefix hw
    exact ⟨t, ht, run_text.mpr ⟨t, ht, rfl⟩⟩
  nothing s h := run_text_eq_none (Reading.exactly_eq_none.mp h)

theorem text_seq (w : String) (hq : Reads q g) :
    Reads (seq (.text w) q) (.andThen (.exactly w.toList) g) := by
  apply (Reads.text w).seq_of_run hq
  intro s
  simp only [match?, Pattern.text, run]
  cases s.steps? (w.toList.map .single) <;> rfl

theorem openedBy (w : String) {g : List Char → List Char} (hq : Reads q fun s => some (g s)) :
    Reads (seq (.text w) q) (.openedBy w.toList g) := .text_seq w hq

end Reads

/-- At a place where the closing text does not start and text is left, the search goes on. -/
theorem run_closing_eq_none (h : ¬ w.toList <+: s.rest) (hs : s.rest ≠ []) :
    (alt (text w) textEnd).run s some = none := by
  rw [run, run_text_eq_none h]
  simpa [run, Cursor.atEnd] using hs

theorem findNearest_closing (hw : w ≠ "") (n : Nat) (s : Cursor) (hn : s.left = n) :
    ∃ t, s.Passes (Reading.through w.toList s.rest) t ∧
      Stride.findNearest [[CharSet.any]] (fun t => (alt (text w) textEnd).run t some) n s =
        some t := by
  induction n generalizing s with
  | zero =>
    have hrest : s.rest = [] := List.eq_nil_of_length_eq_zero (s.left_eq.symm.trans hn)
    have hclosing : (alt (text w) textEnd).run s some = some s := by
      rw [run, run_text_eq_none]
      · simp [run, Cursor.atEnd, hrest]
      · rwa [hrest, List.prefix_nil, String.toList_eq_nil_iff]
    rw [hrest]
    exact ⟨s, .nil s, hclosing⟩
  | succ n ih =>
    rw [Stride.findNearest]
    obtain ⟨p, r, l, e⟩ := s
    cases r with
    | nil => exact absurd (e.symm.trans hn) (Nat.zero_ne_add_one n)
    | cons c r =>
      by_cases hclose : w.toList <+: c :: r
      · obtain ⟨t, ht⟩ := Cursor.exists_passes_of_prefix (s := ⟨p, c :: r, l, e⟩) hclose
        refine ⟨t, ?_, ?_⟩
        · rwa [Reading.through, if_pos hclose]
        · have htext := run_text.mpr ⟨t, ht, rfl⟩
          rw [run, htext]
      · obtain ⟨t, ht, hfind⟩ := ih ⟨some c, r, l - 1, by simp [e]⟩ (by simp only at hn ⊢; omega)
        have hfirst : Cursor.Passes ⟨p, c :: r, l, e⟩ [c] ⟨some c, r, l - 1, by simp [e]⟩ :=
          ⟨rfl, rfl⟩
        refine ⟨t, ?_, ?_⟩
        · rw [Reading.through, if_neg hclose]
          exact hfirst.append ht
        · rw [run_closing_eq_none hclose (List.cons_ne_nil c r)]
          exact hfind

/-- Any text up to a closing text, or to the end, reads through the first place where it starts. -/
theorem reads_through (hw : w ≠ "") :
    Reads (seq anything (group false (oneOf [text w, textEnd])))
      fun s => some (Reading.through w.toList s) where
  taken s v h := by
    obtain rfl := Option.some.inj h
    obtain ⟨t, ht, hfind⟩ := findNearest_closing hw s.left s rfl
    exact ⟨t, ht, hfind⟩
  nothing s h := by simp at h

theorem match?_either (xs ys : List CharSet) (s : Cursor) :
    (alt (sets xs) (sets ys)).match? s = Stride.step? [xs, ys] s := by
  simp only [match?, run, Stride.step?, List.findSome?_cons, List.findSome?_nil]
  cases s.steps? xs with
  | some t => rfl
  | none => cases s.steps? ys <;> rfl

namespace Reads

theorem pair {x y : CharSet} {kind kind' : Char → Bool} (hx : ∀ c, x.mem c = kind c)
    (hy : ∀ c, y.mem c = kind' c) : Reads (sets [x, y]) (.andThen (.one kind) (.one kind')) := by
  apply (Reads.set_seq hx (Reads.set hy)).congr
  intro s
  simp only [match?, Pattern.set, run, Cursor.steps?]
  cases s.step? x <;> rfl

/-- A stride of either of two kinds. -/
theorem either {xs ys : List CharSet} (hx : Reads (sets xs) f) (hy : Reads (sets ys) g) :
    Stride.Reads [xs, ys] (.orElse f g) where
  taken s w h := by
    rw [← match?_either]
    exact (hx.alt hy).taken s w h
  nothing s h := by
    rw [← match?_either]
    exact (hx.alt hy).nothing s h

end Reads

theorem reach_repeated {u : Stride} (hu : u.Reads f) (n : Nat) (s : Cursor) (nearer : List Cursor) :
    ∃ t ts, s.Passes (Reading.takeMany f n s.rest) t ∧ u.reach n s nearer = t :: ts := by
  induction n generalizing s nearer with
  | zero => exact ⟨s, nearer, .nil s, rfl⟩
  | succ n ih =>
    unfold Stride.reach Reading.takeMany
    cases hf : f s.rest with
    | none =>
      rw [hu.nothing s hf]
      exact ⟨s, nearer, .nil s, rfl⟩
    | some w =>
      obtain ⟨v, hv, hstep⟩ := hu.taken s w hf
      obtain ⟨t, ts, ht, hreach⟩ := ih v (s :: nearer)
      have hdrop : s.rest.drop w.length = v.rest := by rw [hv.rest, List.drop_left]
      rw [hstep]
      refine ⟨t, ts, ?_, hreach⟩
      show s.Passes (w ++ Reading.takeMany f n (s.rest.drop w.length)) t
      rw [hdrop]
      exact hv.append ht

theorem Reads.strides {u : Stride} (hu : u.Reads f) : Reads (strides u) (.repeated f) where
  taken s w h := by
    obtain rfl := Option.some.inj h
    obtain ⟨t, ts, ht, hreach⟩ := reach_repeated hu s.left s []
    refine ⟨t, by rwa [s.left_eq] at ht, ?_⟩
    rw [match?_eq_head?]
    simp only [Pattern.strides, ends, Stride.steps?, if_true, hreach, List.head?_cons]
  nothing s h := by simp [Reading.repeated] at h

end Pattern

end FencedChat
