import FencedChat.Proofs.Grammar.Cover
import FencedChat.Proofs.Grammar.Order
import FencedChat.Proofs.Pattern.Advance
import Mathlib.Data.List.Chain

/-!
A scan as a walk. At each place of a text a walk takes the match of the first rule that matches
there, or leaves the character plain where none does. For rules whose matches are never empty the
scan, which searches for the next match of any rule, is the only walk.
-/

namespace FencedChat

namespace Cursor

variable {s t u : Cursor} {a b : List Char}

/-- The place between two texts. -/
def between (before after : List Char) : Cursor := { start after with prev := before.getLast? }

theorem passes_between (a b : List Char) : (start (a ++ b)).Passes a (between a b) :=
  ⟨rfl, Option.or_none.symm⟩

theorem Passes.eq_of_nil (h : s.Passes [] t) : t = s := ext h.prev h.rest.symm

/-- What is passed behind a place on the way is passed from there. -/
theorem Passes.of_append (h : s.Passes a t) (h' : s.Passes (a ++ b) u) : t.Passes b u where
  rest := by
    have hr := h'.rest
    rw [h.rest, List.append_assoc] at hr
    exact List.append_cancel_left hr
  prev := by rw [h'.prev, h.prev, List.getLast?_append, Option.or_assoc]

theorem Passes.textTo_of_reaches (h : s.Passes a t) (h' : t.Reaches u) :
    s.textTo u = a ++ t.textTo u := by
  obtain ⟨b, hb⟩ := h'
  rw [(h.append hb).textTo, hb.textTo]

theorem rest_eq_nil_of_next? (h : s.next? = none) : s.rest = [] := by
  obtain ⟨p, r, n, hn⟩ := s
  cases r with
  | nil => rfl
  | cons c r => simp [next?] at h

end Cursor

namespace Rule

def matchesAt (s : Cursor) (r : Rule) : Bool := (r.pattern.match? s).isSome

/-- The rule matches the empty text nowhere. -/
def NeverEmpty (r : Rule) : Prop := ∀ s, r.pattern.match? s ≠ some s

variable {r : Rule} {s t : Cursor}

theorem matchesAt_of_match? (h : r.pattern.match? s = some t) : r.matchesAt s = true := by
  rw [matchesAt, h]
  rfl

theorem reaches_match? {p : Pattern} (h : p.match? s = some t) : s.Reaches t := by
  obtain ⟨u, hu, hk⟩ := Pattern.reaches_run h
  obtain rfl := Option.some.inj hk
  exact hu

theorem NeverEmpty.precedes (hr : r.NeverEmpty) (h : r.pattern.match? s = some t) :
    s.Precedes t where
  reaches := reaches_match? h
  left_lt := by
    by_contra hl
    obtain rfl := (reaches_match? h).eq_of_left_le (Nat.le_of_not_lt hl)
    exact hr t h

theorem NeverEmpty.textTo_ne_nil (hr : r.NeverEmpty) (h : r.pattern.match? s = some t) :
    s.textTo t ≠ [] := by
  intro he
  obtain ⟨⟨a, ha⟩, hl⟩ := hr.precedes h
  obtain rfl : a = [] := ha.textTo.symm.trans he
  rw [ha.eq_of_nil] at hl
  exact Nat.lt_irrefl _ hl

theorem neverEmpty_of_advances (hr : r.pattern.advances = true) : r.NeverEmpty := by
  intro s h
  obtain ⟨t, ht, hk⟩ := Pattern.precedes_run hr h
  obtain rfl := Option.some.inj hk
  exact Nat.lt_irrefl _ ht.left_lt

end Rule

namespace Grammar

/-- A rule takes the text between two places: of the rules that match at the first place it is the
one given first among those of the lowest priority number. -/
structure Takes (rules : List Rule) (s : Cursor) (r : Rule) (t : Cursor) : Prop where
  isMatch : r.pattern.match? s = some t
  least : ∀ q ∈ rules, q.matchesAt s = true → r.priority ≤ q.priority
  first : (ofPriority r.priority rules).find? (Rule.matchesAt s) = some r

/-- Puts a plain character before the pieces that follow it, to the plain piece that starts them if
one does. -/
def leavePlain (c : Char) : List Span → List Span
  | [] => [⟨.plain, String.ofList [c]⟩]
  | x :: xs =>
    if x.category = .plain then ⟨.plain, String.ofList (c :: x.text.toList)⟩ :: xs
    else ⟨.plain, String.ofList [c]⟩ :: x :: xs

/-- The pieces of a walk from a place to the end of the text. -/
inductive Walks (rules : List Rule) : Cursor → List Span → Prop
  | finish {s : Cursor} (h : s.rest = []) : Walks rules s []
  | take {s t : Cursor} {r : Rule} {xs : List Span} (h : Takes rules s r t)
      (hw : Walks rules t xs) :
    Walks rules s (⟨r.category, String.ofList (s.textTo t)⟩ :: xs)
  | leave {s t : Cursor} {c : Char} {xs : List Span}
    (h : ∀ r ∈ rules, r.pattern.match? s = none) (hc : s.Passes [c] t) (hw : Walks rules t xs) :
    Walks rules s (leavePlain c xs)

variable {rules rules' : List Rule} {s t u : Cursor} {r q : Rule} {xs ys : List Span} {hit : Hit}
  {mayBeEmpty : Bool} {done : List Span} {gap : List Char} {c : Char}

theorem Takes.mem (h : Takes rules s r t) : r ∈ rules :=
  (mem_ofPriority.mp (List.mem_of_find?_eq_some h.first)).1

theorem Takes.unique (h : Takes rules s r t) (h' : Takes rules s q u) : r = q ∧ t = u := by
  have hle := h.least q h'.mem (Rule.matchesAt_of_match? h'.isMatch)
  have hge := h'.least r h.mem (Rule.matchesAt_of_match? h.isMatch)
  have hp : r.priority = q.priority := Int.le_antisymm hle hge
  have hr := h.first
  rw [hp, h'.first] at hr
  obtain rfl := Option.some.inj hr
  exact ⟨rfl, Option.some.inj (h.isMatch.symm.trans h'.isMatch)⟩

theorem takes_byPriority : Takes (byPriority rules) s r t ↔ Takes rules s r t := by
  constructor
  · intro h
    refine ⟨h.isMatch, fun q hq => h.least q (mem_byPriority.mpr hq), ?_⟩
    rw [← ofPriority_byPriority]
    exact h.first
  · intro h
    refine ⟨h.isMatch, fun q hq => h.least q (mem_byPriority.mp hq), ?_⟩
    rw [ofPriority_byPriority]
    exact h.first

/-- In order of priority, the rule that is taken is the first that matches. -/
theorem takes_of_find? (hs : rules.Pairwise NotBehind)
    (h : rules.find? (Rule.matchesAt s) = some r) (hr : r.pattern.match? s = some t) :
    Takes rules s r t := by
  induction rules with
  | nil => simp at h
  | cons q qs ih =>
    obtain ⟨hq, hqs⟩ := List.pairwise_cons.mp hs
    rw [List.find?_cons] at h
    split at h
    · rename_i hm
      obtain rfl := Option.some.inj h
      refine ⟨hr, ?_, ?_⟩
      · intro p hp _
        rcases List.mem_cons.mp hp with rfl | hp
        · exact Int.le_refl _
        · exact hq p hp
      · rw [ofPriority_cons_eq rfl]
        exact List.find?_cons_of_pos hm
    · rename_i hm
      obtain ⟨_, hleast, hfirst⟩ := ih hqs h
      refine ⟨hr, ?_, ?_⟩
      · intro p hp hpm
        rcases List.mem_cons.mp hp with rfl | hp
        · exact absurd hpm (by simp [hm])
        · exact hleast p hp hpm
      · by_cases hp : q.priority = r.priority
        · rw [ofPriority_cons_eq hp, List.find?_cons_of_neg (by simp [hm])]
          exact hfirst
        · rw [ofPriority_cons_ne hp]
          exact hfirst

theorem hitAt?_eq_find? (rules : List Rule) (s : Cursor) :
    hitAt? rules true s = (rules.find? (Rule.matchesAt s)).bind fun r =>
      (r.pattern.match? s).map fun t => ⟨s, r.category, t⟩ := by
  induction rules with
  | nil => rfl
  | cons r rs ih =>
    have hrun : (r.pattern.run s fun t => if true || t.left != s.left then some t else none) =
        r.pattern.match? s := rfl
    rw [hitAt?, List.findSome?_cons, hrun, ← hitAt?, ih, List.find?_cons]
    cases hm : r.pattern.match? s with
    | none => simp [Rule.matchesAt, hm]
    | some t => simp [Rule.matchesAt, hm]

theorem hitAt?_eq_none_iff :
    hitAt? rules true s = none ↔ ∀ r ∈ rules, r.pattern.match? s = none := by
  simp [hitAt?, Pattern.match?]

/-- A hit is the match of the rule that is taken. -/
theorem takes_of_hitAt? (hs : rules.Pairwise NotBehind) (h : hitAt? rules true s = some hit) :
    ∃ r, Takes rules s r hit.stop ∧ hit = ⟨s, r.category, hit.stop⟩ := by
  rw [hitAt?_eq_find?] at h
  obtain ⟨r, hr, hm⟩ := Option.bind_eq_some_iff.mp h
  obtain ⟨t, ht, rfl⟩ := Option.map_eq_some_iff.mp hm
  exact ⟨r, takes_of_find? hs hr ht, rfl⟩

theorem leavePlain_passOver (h : ∀ x ∈ xs.head?, x.category ≠ .plain) :
    leavePlain c (passOver gap xs) = passOver (c :: gap) xs := by
  unfold passOver
  split
  · rename_i hg
    rw [List.isEmpty_iff.mp hg]
    cases xs with
    | nil => rfl
    | cons x xs =>
      have hx : x.category ≠ .plain := h x rfl
      simp [leavePlain, hx]
  · simp [leavePlain]

/-- A search that finds nothing leaves the text plain. -/
theorem walks_of_search?_eq_none (hb : mayBeEmpty = true) (h : search? rules mayBeEmpty s = none) :
    Walks rules s (passOver s.rest []) := by
  fun_induction search? rules mayBeEmpty s with
  | case1 => simp at h
  | case2 mayBeEmpty s hn t ht ih =>
    subst hb
    obtain ⟨c, hc⟩ := Cursor.passes_next? ht
    have hrest : s.rest = c :: t.rest := hc.rest
    rw [hrest, ← leavePlain_passOver (by simp)]
    exact .leave (hitAt?_eq_none_iff.mp hn) hc (ih rfl h)
  | case3 mayBeEmpty s hn ht =>
    rw [Cursor.rest_eq_nil_of_next? ht]
    exact .finish (Cursor.rest_eq_nil_of_next? ht)

theorem takes_of_search? (hs : rules.Pairwise NotBehind) (hb : mayBeEmpty = true)
    (h : search? rules mayBeEmpty s = some hit) :
    ∃ r, Takes rules hit.start r hit.stop ∧ hit.category = r.category := by
  fun_induction search? rules mayBeEmpty s with
  | case1 mayBeEmpty s found hf =>
    subst hb
    obtain rfl := Option.some.inj h
    obtain ⟨r, hr, hhit⟩ := takes_of_hitAt? hs hf
    rw [hhit]
    exact ⟨r, hr, rfl⟩
  | case2 mayBeEmpty s _ t _ ih => exact ih rfl h
  | case3 => simp at h

/-- A search leaves the text before its hit plain. -/
theorem walks_of_search?_eq_some (hb : mayBeEmpty = true)
    (h : search? rules mayBeEmpty s = some hit) (hx : ∀ x ∈ xs.head?, x.category ≠ .plain)
    (hw : Walks rules hit.start xs) : Walks rules s (passOver (s.textTo hit.start) xs) := by
  fun_induction search? rules mayBeEmpty s with
  | case1 mayBeEmpty s found hf =>
    obtain rfl := Option.some.inj h
    have hstart : found.start = s := (hitAt?_reaches hf).1
    rw [hstart, Cursor.textTo_eq_nil (Nat.le_refl _)]
    rwa [hstart] at hw
  | case2 mayBeEmpty s hn t ht ih =>
    subst hb
    obtain ⟨c, hc⟩ := Cursor.passes_next? ht
    have htext : s.textTo hit.start = c :: t.textTo hit.start :=
      hc.textTo_of_reaches (search?_reaches h).1
    rw [htext, ← leavePlain_passOver hx]
    exact .leave (hitAt?_eq_none_iff.mp hn) hc (ih rfl h)
  | case3 => simp at h

theorem passOver_append (gap : List Char) (xs : List Span) :
    passOver gap [] ++ xs = passOver gap xs := by
  unfold passOver
  split <;> rfl

theorem reverse_passOver (gap : List Char) (done : List Span) :
    (passOver gap done).reverse = done.reverse ++ passOver gap [] := by
  unfold passOver
  split <;> simp

/-- The pieces of a scan behind those found so far are a walk from the place that is reached. -/
theorem walks_scanOnto (hs : rules.Pairwise NotBehind) (hm : ∀ r ∈ rules, r.NeverEmpty)
    (hb : mayBeEmpty = true) :
    ∃ xs, scanOnto rules done mayBeEmpty s = done.reverse ++ xs ∧ Walks rules s xs := by
  fun_induction scanOnto rules done mayBeEmpty s with
  | case1 done mayBeEmpty s h =>
    exact ⟨_, reverse_passOver s.rest done, walks_of_search?_eq_none hb h⟩
  | case2 done mayBeEmpty s hit h found _ ih =>
    obtain ⟨r, hr, hcategory⟩ := takes_of_search? hs hb h
    have hmoves : hit.start.Precedes hit.stop := (hm r hr.mem).precedes hr.isMatch
    obtain ⟨xs, hscan, hxs⟩ := ih (decide_eq_true hmoves.left_lt)
    refine ⟨_, ?_, walks_of_search?_eq_some hb h ?_ (.take hr hxs)⟩
    · rw [hscan, List.reverse_cons, reverse_passOver, hcategory, List.append_assoc,
        List.append_assoc, passOver_append, List.singleton_append]
    · intro x hx
      obtain rfl := Option.some.inj hx
      exact r.notPlain
  | case3 done s hit found hl h =>
    obtain ⟨r, hr, _⟩ := takes_of_search? hs rfl h
    have hmoves : hit.start.Precedes hit.stop := (hm r hr.mem).precedes hr.isMatch
    have hreach := (search?_reaches h).1.trans_precedes hmoves
    exact absurd hreach.left_lt hl
  | case4 done mayBeEmpty s hit h found hl hfalse =>
    exact absurd hb (by simp [hfalse])

theorem walks_scan (g : Grammar) (hs : g.rules.Pairwise NotBehind)
    (hm : ∀ r ∈ g.rules, r.NeverEmpty) (code : String) :
    Walks g.rules (.start code.toList) (g.scan code) := by
  have hwalk : ∃ xs, g.scan code = xs ∧ Walks g.rules (.start code.toList) xs :=
    walks_scanOnto hs hm rfl
  obtain ⟨xs, rfl, hxs⟩ := hwalk
  exact hxs

theorem Walks.of_byPriority (h : Walks (byPriority rules) s xs) : Walks rules s xs := by
  induction h with
  | finish h => exact .finish h
  | take h _ ih => exact .take (takes_byPriority.mp h) ih
  | leave h hc _ ih => exact .leave (fun r hr => h r (mem_byPriority.mpr hr)) hc ih

theorem Takes.rest_ne_nil (hm : ∀ r ∈ rules, r.NeverEmpty) (h : Takes rules s r t) :
    s.rest ≠ [] := by
  intro hrest
  have hl := ((hm r h.mem).precedes h.isMatch).left_lt
  rw [s.left_eq, hrest] at hl
  exact Nat.not_lt_zero _ hl

theorem Takes.not_silent (h : Takes rules s r t) : ¬ ∀ r ∈ rules, r.pattern.match? s = none := by
  intro hn
  have hr := hn r h.mem
  rw [h.isMatch] at hr
  exact absurd hr (by simp)

/-- There is at most one walk from a place. -/
theorem Walks.unique (hm : ∀ r ∈ rules, r.NeverEmpty) (h : Walks rules s xs)
    (h' : Walks rules s ys) : xs = ys := by
  induction h generalizing ys with
  | finish hrest =>
    cases h' with
    | finish => rfl
    | take ht => exact absurd hrest (ht.rest_ne_nil hm)
    | leave _ hc => exact absurd (hrest.symm.trans hc.rest) (by simp)
  | take ht _ ih =>
    cases h' with
    | finish hrest => exact absurd hrest (ht.rest_ne_nil hm)
    | take ht' hw' =>
      obtain ⟨rfl, rfl⟩ := ht.unique ht'
      rw [ih hw']
    | leave hn => exact absurd hn ht.not_silent
  | leave hn hc _ ih =>
    cases h' with
    | finish hrest => exact absurd (hrest.symm.trans hc.rest) (by simp)
    | take ht => exact absurd hn ht.not_silent
    | leave _ hc' hw' =>
      obtain ⟨rfl, htail⟩ := List.cons.inj (hc.rest.symm.trans hc'.rest)
      obtain rfl := Cursor.ext (hc.prev.trans hc'.prev.symm) htail
      rw [ih hw']

/-- A plain character is a piece of its own or the start of the plain piece behind it. -/
theorem leavePlain_cases (c : Char) (xs : List Span) :
    (∀ x ∈ xs.head?, x.category ≠ .plain) ∧ leavePlain c xs = ⟨.plain, String.ofList [c]⟩ :: xs ∨
      ∃ y ys, xs = y :: ys ∧ y.category = .plain ∧
        leavePlain c xs = ⟨.plain, String.ofList (c :: y.text.toList)⟩ :: ys := by
  cases xs with
  | nil => exact .inl ⟨by simp, rfl⟩
  | cons y ys =>
    by_cases hy : y.category = .plain
    · exact .inr ⟨y, ys, rfl, hy, by simp [leavePlain, hy]⟩
    · exact .inl ⟨by simpa using hy, by simp [leavePlain, hy]⟩

theorem text_ne_of_mem_leavePlain (h : ∀ x ∈ xs, x.text ≠ "") :
    ∀ x ∈ leavePlain c xs, x.text ≠ "" := by
  have hc (w : List Char) : String.ofList (c :: w) ≠ "" := by simp
  rcases leavePlain_cases c xs with ⟨_, he⟩ | ⟨y, ys, rfl, _, he⟩
  · rw [he, List.forall_mem_cons]
    exact ⟨hc [], h⟩
  · rw [he, List.forall_mem_cons]
    exact ⟨hc y.text.toList, (List.forall_mem_cons.mp h).2⟩

/-- No piece of a walk is empty. -/
theorem Walks.text_ne (hm : ∀ r ∈ rules, r.NeverEmpty) (h : Walks rules s xs) :
    ∀ x ∈ xs, x.text ≠ "" := by
  induction h with
  | finish => exact List.forall_mem_nil _
  | @take s t r xs ht _ ih =>
    rw [List.forall_mem_cons]
    exact ⟨fun he => (hm r ht.mem).textTo_ne_nil ht.isMatch (String.ofList_eq_empty_iff.mp he), ih⟩
  | leave _ _ _ ih => exact text_ne_of_mem_leavePlain ih

/-- No plain pieces of a walk stand side by side. -/
theorem Walks.isChain (h : Walks rules s xs) : xs.IsChain Span.Apart := by
  induction h with
  | finish => exact .nil
  | @take _ _ r _ _ _ ih => exact ih.cons fun _ _ => .inl r.notPlain
  | @leave _ _ c xs _ _ _ ih =>
    rcases leavePlain_cases c xs with ⟨hx, he⟩ | ⟨y, ys, rfl, hy, he⟩
    · rw [he]
      exact ih.cons fun x hxs => .inr (hx x hxs)
    · obtain ⟨hhead, htail⟩ := List.isChain_cons.mp ih
      rw [he]
      apply htail.cons
      intro z hz
      rcases hhead z hz with h | h
      · exact absurd hy h
      · exact .inr h

/-- A classified piece was there before a character was left plain. -/
theorem classified_leavePlain {before after : List Span} {x : Span}
    (h : leavePlain c xs = before ++ x :: after) (hx : x.category ≠ .plain) :
    ∃ before', xs = before' ++ x :: after ∧ Span.textOf before = c :: Span.textOf before' := by
  rcases leavePlain_cases c xs with ⟨-, he⟩ | ⟨y, ys, rfl, -, he⟩
  · rw [he] at h
    cases before with
    | nil =>
      obtain ⟨rfl, -⟩ := List.cons.inj h
      exact absurd rfl hx
    | cons b before =>
      obtain ⟨rfl, rfl⟩ := List.cons.inj h
      exact ⟨before, rfl, by simp⟩
  · rw [he] at h
    cases before with
    | nil =>
      obtain ⟨rfl, -⟩ := List.cons.inj h
      exact absurd rfl hx
    | cons b before =>
      obtain ⟨rfl, rfl⟩ := List.cons.inj h
      exact ⟨y :: before, rfl, by simp⟩

/-- Some rule took a classified piece, at the place where the pieces before it end. -/
theorem Walks.exists_takes {before after : List Span} {x : Span} (h : Walks rules s xs)
    (hxs : xs = before ++ x :: after) (hx : x.category ≠ .plain) :
    ∃ r t u, s.Passes (Span.textOf before) t ∧ Takes rules t r u ∧
      x = ⟨r.category, String.ofList (t.textTo u)⟩ := by
  induction h generalizing before with
  | finish => simp at hxs
  | @take s t r xs htake _ ih =>
    cases before with
    | nil =>
      obtain ⟨rfl, -⟩ := List.cons.inj hxs
      exact ⟨r, s, t, .nil s, htake, rfl⟩
    | cons y before =>
      obtain ⟨rfl, rfl⟩ := List.cons.inj hxs
      obtain ⟨q, v, w, hv, hq, rfl⟩ := ih rfl
      obtain ⟨a, ha⟩ := Rule.reaches_match? htake.isMatch
      refine ⟨q, v, w, ?_, hq, rfl⟩
      rw [Span.textOf_cons, String.toList_ofList, ha.textTo]
      exact ha.append hv
  | leave _ hc _ ih =>
    obtain ⟨before', hbefore, htext⟩ := classified_leavePlain hxs hx
    obtain ⟨q, v, w, hv, hq, rfl⟩ := ih hbefore
    refine ⟨q, v, w, ?_, hq, rfl⟩
    rw [htext]
    exact hc.append hv

/-- A place inside a plain piece is the place where its first character was left plain, or lies
inside a plain piece of what follows. -/
theorem inside_leavePlain {before after : List Span} {x : Span} {u v : List Char}
    (h : leavePlain c xs = before ++ x :: after) (hx : x.category = .plain)
    (hw : x.text.toList = u ++ v) (hv : v ≠ []) :
    Span.textOf before ++ u = [] ∨
      ∃ before' x' after' u', xs = before' ++ x' :: after' ∧ x'.category = .plain ∧
        x'.text.toList = u' ++ v ∧ Span.textOf before ++ u = c :: (Span.textOf before' ++ u') := by
  rcases leavePlain_cases c xs with ⟨_, he⟩ | ⟨y, ys, rfl, hy, he⟩
  · rw [he] at h
    cases before with
    | nil =>
      obtain ⟨rfl, _⟩ := List.cons.inj h
      rw [String.toList_ofList, List.singleton_eq_append_iff] at hw
      rcases hw with ⟨rfl, _⟩ | ⟨_, hnil⟩
      · exact .inl rfl
      · exact absurd hnil hv
    | cons b before =>
      obtain ⟨rfl, rfl⟩ := List.cons.inj h
      exact .inr ⟨before, x, after, u, rfl, hx, hw, by simp⟩
  · rw [he] at h
    cases before with
    | nil =>
      obtain ⟨rfl, rfl⟩ := List.cons.inj h
      rw [String.toList_ofList] at hw
      cases u with
      | nil => exact .inl rfl
      | cons d u =>
        obtain ⟨rfl, hy'⟩ := List.cons.inj hw
        exact .inr ⟨[], y, ys, u, rfl, hy, hy', rfl⟩
    | cons b before =>
      obtain ⟨rfl, rfl⟩ := List.cons.inj h
      exact .inr ⟨y :: before, x, after, u, rfl, hx, hw, by simp⟩

/-- No rule matches inside a plain piece of a walk. -/
theorem Walks.match?_eq_none {before after : List Span} {x : Span} {u v : List Char}
    (h : Walks rules s xs) (hxs : xs = before ++ x :: after) (hx : x.category = .plain)
    (hw : x.text.toList = u ++ v) (hv : v ≠ []) (ht : s.Passes (Span.textOf before ++ u) t) :
    ∀ r ∈ rules, r.pattern.match? t = none := by
  induction h generalizing before x after u with
  | finish => simp at hxs
  | @take s t' r xs htake _ ih =>
    cases before with
    | nil =>
      obtain ⟨rfl, _⟩ := List.cons.inj hxs
      exact absurd hx r.notPlain
    | cons y before =>
      obtain ⟨rfl, rfl⟩ := List.cons.inj hxs
      obtain ⟨a, ha⟩ := Rule.reaches_match? htake.isMatch
      rw [Span.textOf_cons, String.toList_ofList, ha.textTo, List.append_assoc] at ht
      exact ih rfl hx hw (ha.of_append ht)
  | @leave s t' c xs hn hc _ ih =>
    rcases inside_leavePlain hxs hx hw hv with he | ⟨before', x', after', u', rfl, hx', hw', he⟩
    · rw [he] at ht
      rw [ht.eq_of_nil]
      exact hn
    · rw [he] at ht
      exact ih rfl hx' hw' (hc.of_append ht)

end Grammar

end FencedChat
