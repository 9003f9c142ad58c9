import FencedChat.Proofs.Grammar.Reference
import FencedChat.Proofs.Pattern.Runs

/-!
Patterns that read. A reading takes a text off the start of a text and never tries another one: a
run goes as far as it can, and of two readings the second counts only where the first takes nothing.
Where a pattern would gain nothing by giving characters back, its match is what a reading takes.
-/

namespace FencedChat

/-- What is taken off the start of a text, if the text starts with it. -/
abbrev Reading := List Char → Option (List Char)

namespace Reading

variable {p : Char → Bool} {f g : Reading} {s v w : List Char}

def one (p : Char → Bool) : Reading
  | c :: _ => if p c then some [c] else none
  | [] => none

def run (p : Char → Bool) : Reading := fun s => some (s.takeWhile p)

def andThen (f g : Reading) : Reading := fun s =>
  (f s).bind fun v => (g (s.drop v.length)).map (v ++ ·)

def orElse (f g : Reading) : Reading := fun s => (f s).or (g s)

def maybe (f : Reading) : Reading := orElse f fun _ => some []

def oneOrMore (p : Char → Bool) : Reading := andThen (one p) (run p)

theorem one_eq_some : one p s = some w ↔ ∃ c r, s = c :: r ∧ p c = true ∧ [c] = w := by
  cases s with
  | nil => simp [one]
  | cons c r => simp [one]

theorem andThen_eq_some : andThen f g s = some w ↔
    ∃ u v, f s = some u ∧ g (s.drop u.length) = some v ∧ u ++ v = w := by
  simp only [andThen, Option.bind_eq_some_iff, Option.map_eq_some_iff]
  constructor
  · rintro ⟨u, hu, v, hv, he⟩
    exact ⟨u, v, hu, hv, he⟩
  · rintro ⟨u, v, hu, hv, he⟩
    exact ⟨u, hu, v, hv, he⟩

theorem andThen_eq_none :
    andThen f g s = none ↔ ∀ u, f s = some u → g (s.drop u.length) = none := by
  simp only [andThen, Option.bind_eq_none_iff, Option.map_eq_none_iff]

theorem orElse_eq_some : orElse f g s = some w ↔ f s = some w ∨ f s = none ∧ g s = some w := by
  simp only [orElse, Option.or_eq_some_iff]

theorem orElse_eq_none : orElse f g s = none ↔ f s = none ∧ g s = none := by
  simp only [orElse, Option.or_eq_none_iff]

theorem maybe_ne_none (f : Reading) (s : List Char) : maybe f s ≠ none := by
  simp [maybe, orElse]

end Reading

namespace Pattern

/-- A pattern matches what a reading takes, and nothing else. -/
structure Reads (p : Pattern) (f : Reading) : Prop where
  taken : ∀ s w, f s.rest = some w → ∃ t, s.Passes w t ∧ p.match? s = some t
  nothing : ∀ s, f s.rest = none → p.match? s = none

variable {x : CharSet} {kind : Char → Bool} {p q : Pattern} {f g : Reading} {s t : Cursor}

theorem findNearest_map (u : Stride) (k : Cursor → Option Cursor) (h : Cursor → Cursor) (n : Nat)
    (s : Cursor) :
    u.findNearest (fun t => (k t).map h) n s = (u.findNearest k n s).map h := by
  induction n generalizing s with
  | zero => rfl
  | succ n ih =>
    unfold Stride.findNearest
    cases k s with
    | some r => rfl
    | none =>
      cases u.step? s with
      | none => rfl
      | some t => exact ih t

/-- What is done with the end of a match does not change which match is found. -/
theorem run_map (p : Pattern) (k : Cursor → Option Cursor) (h : Cursor → Cursor) (s : Cursor) :
    p.run s (fun t => (k t).map h) = (p.run s k).map h := by
  induction p generalizing s k with
  | empty => rfl
  | sets xs =>
    unfold run
    cases s.steps? xs <;> rfl
  | seq p q ihp ihq =>
    have hq : (fun t => q.run t fun u => (k u).map h) = fun t => (q.run t k).map h :=
      funext fun t => ihq k t
    rw [run, hq, ihp, run]
  | alt p q ihp ihq =>
    simp only [run, ihp, ihq]
    cases p.run s k <;> rfl
  | many u least most greedy =>
    unfold run
    cases u.steps? least s with
    | none => rfl
    | some t =>
      cases greedy with
      | true => exact (List.map_findSome? ..).symm
      | false => exact findNearest_map u k h _ t
  | skip x => rfl
  | group captured p ih => exact ih k s
  | _ =>
    simp only [run]
    split <;> rfl

theorem run_some_map (p : Pattern) (h : Cursor → Cursor) (s : Cursor) :
    p.run s (fun t => some (h t)) = (p.match? s).map h := run_map p some h s

namespace Reads

/-- A match takes what the reading takes. -/
theorem textTo (hp : Reads p f) (h : p.match? s = some t) : f s.rest = some (s.textTo t) := by
  cases hf : f s.rest with
  | none =>
    rw [hp.nothing s hf] at h
    simp at h
  | some w =>
    obtain ⟨u, hu, hm⟩ := hp.taken s w hf
    obtain rfl := Option.some.inj (h.symm.trans hm)
    rw [hu.textTo]

theorem set (hx : ∀ c, x.mem c = kind c) : Reads (set x) (.one kind) where
  taken s w h := by
    obtain ⟨prev, r, n, e⟩ := s
    cases r with
    | nil => simp [Reading.one] at h
    | cons c r =>
      by_cases hc : kind c = true
      · have hw : [c] = w := by simpa [Reading.one, hc] using h
        have hmem : x.mem c = true := (hx c).trans hc
        subst hw
        refine ⟨⟨some c, r, n - 1, by simp [e]⟩, ⟨rfl, rfl⟩, ?_⟩
        rw [match?_set]
        simp [Cursor.step?, hmem]
      · simp [Reading.one, hc] at h
  nothing s h := by
    obtain ⟨prev, r, n, e⟩ := s
    rw [match?_set]
    cases r with
    | nil => rfl
    | cons c r =>
      have hmem : x.mem c = false := by simpa [Reading.one, hx] using h
      simp [Cursor.step?, hmem]

theorem star (hx : ∀ c, x.mem c = kind c) : Reads (star x) (.run kind) where
  taken s w h := by
    obtain rfl := Option.some.inj h
    obtain rfl : x.mem = kind := funext hx
    exact ⟨s.skip x, Cursor.passes_skip x s, match?_star x s⟩
  nothing s h := by simp [Reading.run] at h

theorem alt (hp : Reads p f) (hq : Reads q g) : Reads (alt p q) (.orElse f g) where
  taken s w h := by
    rcases Reading.orElse_eq_some.mp h with hf | ⟨hf, hg⟩
    · obtain ⟨t, ht, hm⟩ := hp.taken s w hf
      exact ⟨t, ht, run_alt_of_some hm⟩
    · obtain ⟨t, ht, hm⟩ := hq.taken s w hg
      exact ⟨t, ht, (run_alt_of_none (hp.nothing s hf)).trans hm⟩
  nothing s h := by
    obtain ⟨hf, hg⟩ := Reading.orElse_eq_none.mp h
    exact (run_alt_of_none (hp.nothing s hf)).trans (hq.nothing s hg)

theorem empty : Reads .empty fun _ => some [] where
  taken s w h := by
    obtain rfl := Option.some.inj h
    exact ⟨s, .nil s, rfl⟩
  nothing s h := by simp at h

theorem optional (hp : Reads p f) : Reads (optional p) (.maybe f) := hp.alt .empty

theorem group (hp : Reads p f) (captured : Bool) : Reads (group captured p) f :=
  ⟨hp.taken, hp.nothing⟩

/-- A pattern at whose end another one goes on. -/
theorem seq_of_run (hp : Reads p f) (hq : Reads q g)
    (hrun : ∀ s, (seq p q).match? s = (p.match? s).bind fun t => q.match? t) :
    Reads (seq p q) (.andThen f g) where
  taken s w h := by
    obtain ⟨u, v, hu, hv, rfl⟩ := Reading.andThen_eq_some.mp h
    obtain ⟨t, ht, hm⟩ := hp.taken s u hu
    have hrest : s.rest.drop u.length = t.rest := by rw [ht.rest, List.drop_left]
    rw [hrest] at hv
    obtain ⟨r, hr, hm'⟩ := hq.taken t v hv
    exact ⟨r, ht.append hr, by rw [hrun, hm, Option.bind_some, hm']⟩
  nothing s h := by
    rw [hrun]
    cases hf : f s.rest with
    | none => rw [hp.nothing s hf, Option.bind_none]
    | some u =>
      obtain ⟨t, ht, hm⟩ := hp.taken s u hf
      have hg := Reading.andThen_eq_none.mp h u hf
      rw [ht.rest, List.drop_left] at hg
      rw [hm, Option.bind_some, hq.nothing t hg]

/-- One character can be taken in one way only. -/
theorem set_seq (hx : ∀ c, x.mem c = kind c) (hq : Reads q g) :
    Reads (seq (.set x) q) (.andThen (.one kind) g) := by
  apply (Reads.set hx).seq_of_run hq
  intro s
  rw [match?_set]
  simp only [match?, Pattern.set, run, Cursor.steps?]
  cases s.step? x <;> rfl

theorem congr (hp : Reads p f) (h : ∀ s, q.match? s = p.match? s) : Reads q f where
  taken s w hw := by
    obtain ⟨t, ht, hm⟩ := hp.taken s w hw
    exact ⟨t, ht, (h s).trans hm⟩
  nothing s hs := (h s).trans (hp.nothing s hs)

theorem plus (hx : ∀ c, x.mem c = kind c) : Reads (plus x) (.oneOrMore kind) := by
  apply (Reads.set_seq hx (Reads.star hx)).congr
  intro s
  have hseq : (seq (.set x) (.star x)).match? s = (s.step? x).bind (Pattern.star x).match? := by
    simp only [match?, Pattern.set, run, Cursor.steps?]
    cases s.step? x <;> rfl
  rw [match?_plus, hseq]
  cases h : s.step? x with
  | none => rfl
  | some t => rw [Option.map_some, Option.bind_some, match?_star, Cursor.skip_of_step?_eq_some h]

/-- If what follows always matches, nothing is given back to it. -/
theorem seq_of_total (hp : Reads p f) (hq : Reads q g) (hg : ∀ w, g w ≠ none) :
    Reads (seq p q) (.andThen f g) := by
  have htotal (t : Cursor) : ∃ u, q.match? t = some u := by
    obtain ⟨w, hw⟩ := Option.ne_none_iff_exists'.mp (hg t.rest)
    obtain ⟨u, -, hu⟩ := hq.taken t w hw
    exact ⟨u, hu⟩
  choose h hh using htotal
  apply hp.seq_of_run hq
  intro s
  have hk : (fun t => q.run t some) = fun t => some (h t) := funext hh
  have hbind : (fun t => q.match? t) = fun t => some (h t) := funext hh
  rw [match?, run, hk, run_some_map, hbind, Option.map_eq_bind]
  rfl

/-- An optional character is not given back to what cannot start with it. -/
theorem optional_seq (hx : ∀ c, x.mem c = kind c) (hq : Reads q g)
    (hg : ∀ c w, kind c = true → g (c :: w) = none) :
    Reads (seq (.optional (.set x)) q) (.andThen (.maybe (.one kind)) g) := by
  apply (Reads.set hx).optional.seq_of_run hq
  intro s
  have hset (k : Cursor → Option Cursor) : (Pattern.set x).run s k = (s.step? x).bind k := by
    simp only [Pattern.set, run, Cursor.steps?]
    cases s.step? x <;> rfl
  have hrun :
      (seq (.optional (.set x)) q).match? s = ((s.step? x).bind q.match?).or (q.match? s) := by
    have hrest : (fun t => q.run t some) = q.match? := rfl
    simp only [match?, Pattern.optional, run, hset, hrest]
    cases (s.step? x).bind q.match? <;> rfl
  have hmatch : (Pattern.optional (.set x)).match? s = some ((s.step? x).getD s) := by
    simp only [match?, Pattern.optional, run, hset]
    cases s.step? x <;> rfl
  rw [hrun, hmatch, Option.bind_some]
  cases hstep : s.step? x with
  | none => rfl
  | some t =>
    obtain ⟨c, hc, hmem⟩ := Cursor.passes_step? hstep
    -- from the character itself the rest does not match
    have hnone : q.match? s = none := by
      apply hq.nothing
      rw [hc.rest]
      exact hg c _ ((hx c).symm.trans hmem)
    rw [hnone, Option.or_none]
    rfl

end Reads

end Pattern

end FencedChat
