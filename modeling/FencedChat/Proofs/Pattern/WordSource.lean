import FencedChat.Pattern.Reader
import FencedChat.Pattern.Source
import FencedChat.Proofs.Pattern.ExactWords

/-!
The written form of words. The characters of a word that mean something in a pattern are written
with a backslash before them, so the written form reads as a pattern that matches as the words do,
whatever characters they hold.
-/

namespace FencedChat.Pattern

variable {before here : List Pattern} {n : Nat} {c : Char} {cs r : List Char}
    {ws names : List String}

def wordSource (w : String) : List Char := w.toList.flatMap literalSource

def barredSource : List String → List Char
  | [] => []
  | [w] => wordSource w
  | w :: v :: ws => wordSource w ++ '|' :: barredSource (v :: ws)

theorem sourceIn_text (w : String) : sourceIn .whole (text w) = wordSource w := by
  simp only [text, sourceIn, wordSource, List.flatMap_map]
  rfl

theorem sourceIn_oneOf (hne : ws ≠ []) :
    sourceIn .whole (oneOf (ws.map text)) = barredSource ws := by
  induction ws with
  | nil => exact absurd rfl hne
  | cons w ws ih =>
    cases ws with
    | nil => exact sourceIn_text w
    | cons v ws =>
      have halt : sourceIn .whole (alt (text w) (oneOf ((v :: ws).map text))) =
          sourceIn .whole (text w) ++ '|' :: sourceIn .whole (oneOf ((v :: ws).map text)) := by
        cases ws <;> rfl
      have hrest := ih (List.cons_ne_nil v ws)
      rw [barredSource, ← hrest, ← sourceIn_text]
      exact halt

/-- The set of the neighbours of a word as it is written, behind its opening bracket. -/
def neighbourSource : List Char := ['\\', 'w', '$', ']']

theorem source_wordNeighbour : wordNeighbour.source = '[' :: neighbourSource := by
  have hdollar : CharSet.memberSource '$' = ['$'] := by simp [CharSet.memberSource]
  show '[' :: ([] ++ [CharSet.Item.word, .char '$'].flatMap CharSet.Item.source ++ [']']) = _
  rw [List.flatMap_cons, List.flatMap_cons, CharSet.Item.source, CharSet.Item.source, hdollar]
  rfl

theorem sourceIn_words (hne : wordOrder names ≠ []) : sourceIn .whole (words names) =
    '(' :: '?' :: '<' :: '!' :: '[' :: (neighbourSource ++ ')' :: '(' :: '?' :: ':' ::
      (barredSource (wordOrder names) ++
        ')' :: '(' :: '?' :: '!' :: '[' :: (neighbourSource ++ [')']))) := by
  simp only [words, all, notAfter, notBefore, set, sourceIn, sourceIn_oneOf hne]
  simp [source_wordNeighbour]

/-- The text does not start with the sign of a repetition. -/
def StartsNoSign (r : List Char) : Prop := ∀ d ∈ r.head?, d ∉ ['*', '+', '?', '\x7b']

theorem quantified?_of_startsNoSign (p : Pattern) (h : StartsNoSign r) :
    quantified? p r = some (p, r) := by
  have hbounds : bounds? r = none := by
    unfold bounds?
    split
    · exact absurd (h '*' rfl) (by decide)
    · exact absurd (h '+' rfl) (by decide)
    · exact absurd (h '?' rfl) (by decide)
    · exact absurd (h '\x7b' rfl) (by decide)
    · rfl
  rw [quantified?, hbounds]

theorem startsNoSign_literalSource (c : Char) (r : List Char) :
    StartsNoSign (literalSource c ++ r) := by
  intro d hd
  unfold literalSource at hd
  split at hd
  · obtain rfl := Option.some.inj hd
    decide
  · rename_i hc
    obtain rfl := Option.some.inj hd
    intro hm
    apply hc
    simp only [List.mem_cons, List.not_mem_nil, or_false] at hm
    rcases hm with rfl | rfl | rfl | rfl <;> decide

/-- A pattern that nothing repeats joins the sequence that is being read. -/
def readOn (before here : List Pattern) (n : Nat) (p : Pattern) (r : List Char) :
    Option (Pattern × List Char) :=
  match quantified? p r with
  | some (p, r) => readFrom? before (p :: here) n r
  | none => none

theorem readOn_of_startsNoSign (p : Pattern) (h : StartsNoSign r) :
    readOn before here n p r = readFrom? before (p :: here) n r := by
  rw [readOn, quantified?_of_startsNoSign p h]

/-- What is read up to a closing parenthesis joins, as a pattern that looks or is grouped, the
sequence that is being read. -/
def readInside (before here : List Pattern) (n : Nat) (f : Pattern → Option Pattern)
    (r : List Char) :
    Option (Pattern × List Char) :=
  match readFrom? [] [] n r with
  | some (p, ')' :: r) =>
    match f p with
    | some p => readOn before here n p r
    | none => none
  | _ => none

theorem readFrom?_close : readFrom? before here (n + 1) (')' :: r) =
    some (oneOf (all here.reverse :: before).reverse, ')' :: r) := rfl

theorem readFrom?_bar : readFrom? before here (n + 1) ('|' :: r) =
    readFrom? (all here.reverse :: before) [] n r := rfl

def readSet (before here : List Pattern) (n : Nat) :
    Option (CharSet × List Char) → Option (Pattern × List Char)
  | some (x, r) => readOn before here n (set x) r
  | none => none

theorem readFrom?_bracket {x : CharSet} (h : bracketed? cs = some (x, r)) :
    readFrom? before here (n + 1) ('[' :: cs) = readOn before here n (set x) r := by
  have hread : readFrom? before here (n + 1) ('[' :: cs) =
      readSet before here n (bracketed? cs) := rfl
  rw [hread, h, readSet]

theorem isAlphanum_of_escaped (hc : isEscapedInPattern c = true) : c.isAlphanum = false := by
  have hall : "\t\n\x0b\x0c\r #$&()*+-.?[\\]^\x7b|\x7d~".toList.any Char.isAlphanum = false := by
    decide +kernel
  simpa using List.any_eq_false.mp hall c (List.contains_iff_mem.mp hc)

theorem readFrom?_escaped (hc : isEscapedInPattern c = true) :
    readFrom? before here (n + 1) ('\\' :: c :: r) = readOn before here n (set (.single c)) r := by
  have hletter := isAlphanum_of_escaped hc
  have hclass : classSet? c = none := by
    unfold classSet?
    split <;> simp_all
  have hchar : escapedChar? c = some c := by
    unfold escapedChar?
    split <;> simp_all
  have hZ : c ≠ 'Z' := by
    rintro rfl
    exact absurd hletter (by decide)
  have hb : c ≠ 'b' := by
    rintro rfl
    exact absurd hletter (by decide)
  rw [readFrom?.eq_def]
  simp only [hclass, hchar]
  rfl

/-- The characters that mean something in a pattern are all written with a backslash before them. -/
theorem readFrom?_plain (hc : isEscapedInPattern c = false) :
    readFrom? before here (n + 1) (c :: r) = readOn before here n (set (.single c)) r := by
  have hsigns :
      [')', '|', '(', '[', '^', '$', '.', '\\', '*', '+', '?'].all isEscapedInPattern = true := by
    simp [isEscapedInPattern]
  have hne : ∀ d ∈ [')', '|', '(', '[', '^', '$', '.', '\\', '*', '+', '?'], c ≠ d := by
    rintro d hd rfl
    rw [List.all_eq_true.mp hsigns c hd] at hc
    exact absurd hc (by decide)
  simp only [List.forall_mem_cons, List.not_mem_nil, false_imp_iff, implies_true, and_true] at hne
  rw [readFrom?.eq_def]
  simp [hne]
  rfl

/-- A character as it is written reads as that character. -/
theorem readFrom?_literalSource (hr : StartsNoSign r) :
    readFrom? before here (n + 1) (literalSource c ++ r) =
      readFrom? before (set (.single c) :: here) n r := by
  rw [← readOn_of_startsNoSign (set (.single c)) hr]
  unfold literalSource
  split
  · rename_i hc
    exact readFrom?_escaped hc
  · rename_i hc
    exact readFrom?_plain (by simpa using hc)

def spelled (cs : List Char) : List Pattern := cs.map fun c => set (.single c)

/-- What follows a text that is written is no sign of a repetition, whatever the text is. -/
theorem startsNoSign_flatMap (hr : StartsNoSign r) :
    StartsNoSign (cs.flatMap literalSource ++ r) := by
  cases cs with
  | nil => exact hr
  | cons c cs =>
    rw [List.flatMap_cons, List.append_assoc]
    exact startsNoSign_literalSource c _

theorem readFrom?_flatMap (hr : StartsNoSign r) :
    readFrom? before here (n + cs.length) (cs.flatMap literalSource ++ r) =
      readFrom? before ((spelled cs).reverse ++ here) n r := by
  induction cs generalizing here with
  | nil => rfl
  | cons c cs ih =>
    rw [List.flatMap_cons, List.append_assoc, List.length_cons, ← Nat.add_assoc,
      readFrom?_literalSource (startsNoSign_flatMap hr), ih]
    simp [spelled]

theorem length_le_flatMap (cs : List Char) : cs.length ≤ (cs.flatMap literalSource).length := by
  induction cs with
  | nil => rfl
  | cons c cs ih =>
    have hc : 1 ≤ (literalSource c).length := by
      unfold literalSource
      split <;> simp
    simp only [List.flatMap_cons, List.length_append, List.length_cons]
    omega

def wordPattern (w : String) : Pattern := all (spelled w.toList)

theorem startsNoSign_cons {d : Char} (r : List Char)
    (hd : d ∉ ['*', '+', '?', '\x7b'] := by decide) :
    StartsNoSign (d :: r) := by
  intro e he
  obtain rfl := Option.some.inj he
  exact hd

/-- Words with bars between them read as alternatives, up to the closing parenthesis. -/
theorem readFrom?_barredSource (hne : ws ≠ []) (hn : (barredSource ws).length < n) :
    readFrom? before [] n (barredSource ws ++ ')' :: r) =
      some (oneOf (before.reverse ++ ws.map wordPattern), ')' :: r) := by
  induction ws generalizing before n with
  | nil => exact absurd rfl hne
  | cons w ws ih =>
    have hlength := length_le_flatMap w.toList
    cases ws with
    | nil =>
      rw [barredSource, wordSource] at hn ⊢
      obtain ⟨m, rfl⟩ := Nat.exists_eq_add_of_lt (Nat.lt_of_le_of_lt hlength hn)
      rw [show w.toList.length + m + 1 = m + 1 + w.toList.length by omega,
        readFrom?_flatMap (startsNoSign_cons _)]
      simp [readFrom?_close, wordPattern]
    | cons v ws =>
      rw [barredSource, wordSource] at hn ⊢
      rw [List.length_append, List.length_cons] at hn
      obtain ⟨m, rfl⟩ : ∃ m, n = m + 1 + w.toList.length := ⟨n - 1 - w.toList.length, by omega⟩
      rw [List.append_assoc, List.cons_append, readFrom?_flatMap (startsNoSign_cons _)]
      have hrest := @ih (wordPattern w :: before) m (List.cons_ne_nil v ws) (by omega)
      simp only [readFrom?_bar, List.append_nil, List.reverse_reverse]
      exact hrest.trans (by simp)

theorem bracketed?_neighbourSource :
    bracketed? (neighbourSource ++ r) = some (wordNeighbour, r) := by
  have hprefix : "\\s\\S]".toList.isPrefixOf (neighbourSource ++ r) = false := by
    have hlist : "\\s\\S]".toList = ['\\', 's', '\\', 'S', ']'] := by simp
    rw [hlist]
    rfl
  rw [bracketed?, hprefix]
  · rfl
  · simp [neighbourSource]
  · simp [neighbourSource]

theorem readFrom?_neighbourSource :
    readFrom? [] [] (n + 2) ('[' :: (neighbourSource ++ ')' :: r)) =
      some (set wordNeighbour, ')' :: r) := by
  rw [readFrom?_bracket bracketed?_neighbourSource, readOn_of_startsNoSign _ (startsNoSign_cons r)]
  rfl

variable {p q : Pattern} {x : CharSet} {inner : List Char} {f : Pattern → Option Pattern}

theorem readInside_eq (h : readFrom? [] [] n inner = some (p, ')' :: r)) (hf : f p = some q) :
    readInside before here n f inner = readOn before here n q r := by
  simp only [readInside, h, hf]

theorem readFrom?_notAfter (h : readFrom? [] [] n inner = some (set x, ')' :: r)) :
    readFrom? before here (n + 1) ('(' :: '?' :: '<' :: '!' :: inner) =
      readOn before here n (notAfter x) r :=
  readInside_eq h rfl

theorem readFrom?_group (h : readFrom? [] [] n inner = some (p, ')' :: r)) :
    readFrom? before here (n + 1) ('(' :: '?' :: ':' :: inner) =
      readOn before here n (group false p) r :=
  readInside_eq (f := fun p => some (group false p)) h rfl

theorem readFrom?_notBefore (h : readFrom? [] [] n inner = some (p, ')' :: r)) :
    readFrom? before here (n + 1) ('(' :: '?' :: '!' :: inner) =
      readOn before here n (notBefore p) r :=
  readInside_eq (f := fun p => some (notBefore p)) h rfl

def spelledWords (ws : List String) : Pattern :=
  all [notAfter wordNeighbour, group false (oneOf (ws.map wordPattern)),
    notBefore (set wordNeighbour)]

theorem readFrom?_words (hne : ws ≠ []) (hn : (barredSource ws).length < n) :
    readFrom? [] [] (n + 5) ('(' :: '?' :: '<' :: '!' :: '[' :: (neighbourSource ++
      ')' :: '(' :: '?' :: ':' :: (barredSource ws ++
        ')' :: '(' :: '?' :: '!' :: '[' :: (neighbourSource ++ [')'])))) =
      some (spelledWords ws, []) := by
  rw [readFrom?_notAfter readFrom?_neighbourSource, readOn_of_startsNoSign _ (startsNoSign_cons _),
    readFrom?_group (readFrom?_barredSource hne (by omega)),
    readOn_of_startsNoSign _ (startsNoSign_cons _), readFrom?_notBefore readFrom?_neighbourSource,
    readOn_of_startsNoSign _ (by simp [StartsNoSign])]
  rfl

variable {s : Cursor} {k : Cursor → Option Cursor}

/-- Single characters one after the other match as the text that they make. -/
theorem run_spelled (cs : List Char) (s : Cursor) :
    (all (spelled cs)).run s k = (sets (cs.map .single)).run s k := by
  induction cs generalizing s with
  | nil => rfl
  | cons c cs ih =>
    cases cs with
    | nil => rfl
    | cons d cs =>
      have hfirst : (all (spelled (c :: d :: cs))).run s k =
          (set (.single c)).run s fun t => (sets ((d :: cs).map .single)).run t k :=
        congrArg ((set (.single c)).run s) (funext ih)
      rw [hfirst]
      simp only [set, run, List.map_cons, Cursor.steps?]
      cases s.step? (.single c) <;> rfl

theorem run_spelledWords (hne : ws ≠ []) : (spelledWords ws).run s k =
    (all [notAfter wordNeighbour, group false (oneOf (ws.map text)),
      notBefore (set wordNeighbour)]).run s k := by
  have hwords (s : Cursor) (k : Cursor → Option Cursor) :
      (oneOf (ws.map wordPattern)).run s k = (oneOf (ws.map text)).run s k := by
    rw [run_oneOf (by simpa using hne), run_oneOf (by simpa using hne), List.findSome?_map,
      List.findSome?_map]
    exact congrArg (ws.findSome? ·) (funext fun w => run_spelled w.toList s)
  simp only [spelledWords, all, notAfter, run, hwords]

/-- The written form of words reads as a pattern that matches as they do. -/
theorem read?_source_words (hne : names ≠ []) :
    ∃ p, read? (words names).source = some p ∧ ∀ s k, p.run s k = (words names).run s k := by
  have horder := wordOrder_ne_nil hne
  refine ⟨spelledWords (wordOrder names), ?_, fun s k => run_spelledWords horder⟩
  have htext : (words names).source.toList = sourceIn .whole (words names) := String.toList_ofList
  obtain ⟨n, hn, hl⟩ : ∃ n, (words names).source.length + 1 = n + 5 ∧
      (barredSource (wordOrder names)).length < n := by
    rw [← String.length_toList, htext, sourceIn_words horder]
    simp only [List.length_cons, List.length_append]
    exact ⟨_, rfl, by omega⟩
  rw [read?, htext, hn, sourceIn_words horder, readFrom?_words horder hl]

/-- The pattern matches exactly where one of the words stands alone, and then the longest that does.
It is the same pattern in whatever order and however often the words are given, and its written form
reads as a pattern with the same matches. -/
theorem words_exact (hne : names ≠ []) :
    (∀ s t, (words names).match? s = some t ↔
      ∃ w ∈ names, StandsAlone w s t ∧ ∀ v ∈ names, ∀ u, StandsAlone v s u → v.length ≤ w.length) ∧
    (∀ s, ((words names).match? s).isSome ↔ ∃ w ∈ names, ∃ t, StandsAlone w s t) ∧
    (∀ names', (∀ w, w ∈ names' ↔ w ∈ names) → words names' = words names) ∧
    ∃ p, read? (words names).source = some p ∧ ∀ s, p.match? s = (words names).match? s := by
  refine ⟨fun s t => match?_words_eq_some_iff hne, fun s => ⟨?alone, ?matched⟩, ?order, ?source⟩
  case alone =>
    intro h
    obtain ⟨t, ht⟩ := Option.isSome_iff_exists.mp h
    obtain ⟨w, hw, hs, -⟩ := exists_standsAlone hne ht
    exact ⟨w, hw, t, hs⟩
  case matched =>
    rintro ⟨w, hw, t, hs⟩
    exact match?_words_isSome hne hw hs
  case order =>
    intro names' h
    simp only [words, wordOrder_congr h]
  case source =>
    obtain ⟨p, hp, hrun⟩ := read?_source_words hne
    exact ⟨p, hp, fun s => hrun s some⟩

/-- Behind a blank the longer word is taken, although the shorter one begins it and its last
characters mean something in a pattern. -/
theorem words_exact_pluses :
    ["c", "c++", "c"] ≠ [] ∧
    (words ["c", "c++", "c"]).match? (.between ['a', ' '] ['c', '+', '+', ';']) =
      some (.between ['a', ' ', 'c', '+', '+'] [';']) ∧
    words ["c++", "c"] = words ["c", "c++", "c"] := by
  have hne : ["c", "c++", "c"] ≠ [] := by decide
  obtain ⟨hmatch, -, horder, -⟩ := words_exact hne
  refine ⟨hne, (hmatch _ _).mpr ⟨"c++", by simp, ?alone, ?longest⟩,
    horder ["c++", "c"] (by simp [or_comm])⟩
  case alone =>
    refine ⟨⟨by simp [Cursor.between, Cursor.start], by simp [Cursor.between]⟩, fun c hc => ?_,
      fun c hc => ?_⟩
    · obtain rfl := Option.some.inj hc
      decide
    · obtain rfl := Option.some.inj hc
      decide
  case longest =>
    intro v hv u _
    have hall : ∀ w ∈ ["c", "c++", "c"], w.length ≤ "c++".length := by decide
    exact hall v hv

end FencedChat.Pattern
