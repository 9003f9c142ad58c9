import FencedChat.Proofs.Message.FenceScan
import FencedChat.Proofs.Message.Slices

/-!
The reader follows the scanner. The code blocks of a message are exactly those that the scanner
finds. Where it comes to a fence that never closes, the text before that fence is read by itself and
the rest is plain.
-/

namespace FencedChat

def Logged.entriesOf {α : Type} (x : Logged α) (component : String) : List LogEntry :=
  x.log.filter fun e => e.component = component

theorem Logged.entriesOf_bind {α β : Type} (x : Logged α) (f : α → Logged β) (component : String) :
    (x >>= f).entriesOf component = x.entriesOf component ++ (f x.value).entriesOf component :=
  List.filter_append _ _

theorem Highlighter.entriesOf_render (h : Highlighter) (code : String) (language : Option String) :
    (h.render code language).entriesOf "Parser" = [] := by
  apply List.filter_eq_nil_iff.mpr
  intro e he
  rw [component_of_mem_log_render he]
  decide

namespace Segment

theorem blocks_eq_nil {xs : List Segment} (h : ∀ b markup, .codeBlock b markup ∉ xs) :
    blocks xs = [] := by
  apply List.filterMap_eq_nil_iff.mpr
  intro x hx
  cases x with
  | codeBlock b markup => exact absurd hx (h b markup)
  | text => rfl
  | inlineCode => rfl
  | lineBreak => rfl

theorem blocks_prose (s : List Char) : blocks (Prose.segments s) = [] :=
  blocks_eq_nil fun _ _ => Prose.codeBlock_notMem_segments s

theorem blocks_lines (s : List Char) : blocks (Prose.lines s) = [] :=
  blocks_eq_nil fun _ _ => Prose.codeBlock_notMem_linesOnto [] s

end Segment

namespace MessageReader

open Fence

variable (r : MessageReader) {a b s t u v body rest : List Char} {xs ys : List Segment}
    {o : Opening}

/-- Behind the text `a` the text `u` is read as these segments whatever follows it, and nothing is
reported about it. -/
structure ReadsAs (a u : List Char) (xs : List Segment) : Prop where
  value : ∀ line t, (r.readFrom a.getLast? line (u ++ t)).value =
    xs ++ (r.readFrom (a ++ u).getLast? (line + u.count '\n') t).value
  entries : ∀ line t, (r.readFrom a.getLast? line (u ++ t)).entriesOf "Parser" =
    (r.readFrom (a ++ u).getLast? (line + u.count '\n') t).entriesOf "Parser"

variable {r}

theorem ReadsAs.nil (a : List Char) : r.ReadsAs a [] [] where
  value line t := by
    rw [List.append_nil, List.count_nil]
    rfl
  entries line t := by
    rw [List.append_nil, List.count_nil]
    rfl

theorem ReadsAs.append (hu : r.ReadsAs a u xs) (hv : r.ReadsAs (a ++ u) v ys) :
    r.ReadsAs a (u ++ v) (xs ++ ys) where
  value line t := by
    rw [List.append_assoc, hu.value, hv.value, List.append_assoc, List.append_assoc,
      List.count_append, Nat.add_assoc]
  entries line t := by
    rw [List.append_assoc, hu.entries, hv.entries, List.append_assoc, List.count_append,
      Nat.add_assoc]

/-- The prose before a block and the block. -/
theorem readsAs_block (ho : findOpening? a.getLast? [] s = some o)
    (hb : splitAtMarker? [] o.body = some (body, rest)) :
    r.ReadsAs a (blockText o body) (Prose.segments o.before ++ [r.blockSegment o body]) := by
  have hm := (eq_of_splitAtMarker? hb).2
  have hfind (t : List Char) : findOpening? a.getLast? [] (blockText o body ++ t) =
      some { o with body := body ++ (marker ++ t) } := by
    rw [blockText, List.append_assoc _ (body ++ marker), List.append_assoc body]
    exact findOpening?_withBody ho _
  have hsplit (t : List Char) : splitAtMarker? [] (body ++ (marker ++ t)) = some (body, t) :=
    splitAtMarker?_append_marker hm [] t
  constructor
  · intro line t
    rw [r.value_readFrom_of_closed line _ (hfind t) (hsplit t), getLast?_append_blockText,
      List.append_assoc]
    rfl
  · intro line t
    have hcount : line + (blockText o body).count '\n' =
        line + o.before.count '\n' + 1 + body.count '\n' := by
      obtain ⟨l, hl, hn, -, -⟩ := append_eq_line ho []
      have hl' : l.count '\n' = 0 := List.count_eq_zero_of_not_mem hn
      have hmarker : marker.count '\n' = 0 := by decide
      simp only [blockText, hl, List.count_append, List.count_singleton_self, hl', hmarker]
      omega
    rw [r.readFrom_of_closed line (hfind t) (hsplit t), getLast?_append_blockText, hcount,
      Logged.entriesOf_bind, Highlighter.entriesOf_render]
    rfl

/-- What the scanner finds is read, and the reader goes on where the scanner stands. -/
theorem exists_readsAs {p q : Nat} {ws : List WrittenBlock} (h : Finds s p ws q) (hs : s = a ++ v)
    (hp : p = a.length) :
    ∃ u t xs, v = u ++ t ∧ q = (a ++ u).length ∧ r.ReadsAs a u xs ∧
      (Segment.blocks xs).map CodeBlock.written = ws := by
  induction h generalizing a v with
  | nothing => exact ⟨[], v, [], rfl, by rw [hp, List.append_nil], .nil a, rfl⟩
  | block h _ ih =>
    subst hs hp
    obtain ⟨o, body, rest, ho, hb, rfl, rfl, rfl⟩ := h.exists_pieces
    obtain rfl := eq_blockText_append ho hb
    obtain ⟨u, t, xs, rfl, hq, hu, hws⟩ :=
      ih (List.append_assoc a _ rest).symm (length_append_blockText a o body).symm
    refine ⟨blockText o body ++ u, t, _, ?_, ?_, (readsAs_block ho hb).append hu, ?_⟩
    · rw [List.append_assoc]
    · rw [hq, List.append_assoc]
    · rw [Segment.blocks_append, Segment.blocks_append, Segment.blocks_prose, List.map_append, hws,
        ← written_block r ho hb]
      rfl

/-- Where no further block stands none is read. -/
theorem blocks_readFrom_of_no_block (h : ∀ o n m, ¬ BlockAt (a ++ t) a.length o n m) (line : Nat) :
    Segment.blocks (r.readFrom a.getLast? line t).value = [] := by
  cases ho : findOpening? a.getLast? [] t with
  | none => rw [r.value_readFrom_of_eq_none line ho, Segment.blocks_prose]
  | some o =>
    cases hb : splitAtMarker? [] o.body with
    | none =>
      rw [r.value_readFrom_of_open line ho hb, Segment.blocks_append, Segment.blocks_prose,
        Segment.blocks_lines]
      rfl
    | some split => exact absurd (blockAt_of_findOpening? ho hb) (h _ _ _)

theorem ReadsAs.value_read (hu : r.ReadsAs [] u xs) (t : List Char) :
    (r.read (String.ofList (u ++ t))).value =
      xs ++ (r.readFrom u.getLast? (1 + u.count '\n') t).value := by
  rw [read, String.toList_ofList]
  exact hu.value 1 t

theorem ReadsAs.entries_read (hu : r.ReadsAs [] u xs) (t : List Char) :
    (r.read (String.ofList (u ++ t))).entriesOf "Parser" =
      (r.readFrom u.getLast? (1 + u.count '\n') t).entriesOf "Parser" := by
  rw [read, String.toList_ofList]
  exact hu.entries 1 t

/-- What the scanner finds from the start of a message. -/
theorem exists_readsAs_start {text : String} {q : Nat} {ws : List WrittenBlock}
    (h : Finds text.toList 0 ws q) :
    ∃ u t xs, text = String.ofList (u ++ t) ∧ q = u.length ∧ r.ReadsAs [] u xs ∧
      (Segment.blocks xs).map CodeBlock.written = ws := by
  obtain ⟨u, t, xs, hs, hq, hu, hws⟩ := exists_readsAs (r := r) h (List.nil_append _).symm rfl
  exact ⟨u, t, xs, by rw [← hs, String.ofList_toList], hq, hu, hws⟩

theorem blocks_of_scans {text : String} {ws : List WrittenBlock} (h : Scans text.toList ws) :
    (r.blocks text).map CodeBlock.written = ws := by
  obtain ⟨q, hfinds, hend⟩ := h
  obtain ⟨u, t, xs, rfl, rfl, hu, hws⟩ := exists_readsAs_start (r := r) hfinds
  rw [String.toList_ofList] at hend
  rw [blocks, hu.value_read, Segment.blocks_append, blocks_readFrom_of_no_block hend,
    List.append_nil, hws]

variable (r)

/-- The code blocks of a message are those that the scanner finds. -/
theorem blocks_iff_scans (text : String) (ws : List WrittenBlock) :
    (r.blocks text).map CodeBlock.written = ws ↔ Scans text.toList ws := by
  constructor
  · rintro rfl
    obtain ⟨ws, q, hfinds, hend⟩ := exists_finds text.toList 0
    rw [blocks_of_scans ⟨q, hfinds, hend⟩]
    exact ⟨q, hfinds, hend⟩
  · exact blocks_of_scans

/-- Where the scanner comes to a fence that never closes, the text before the fence is read by
itself, and everything from there on is text and line breaks. The blocks that the scanner has found
are kept, and the fence is reported with its line. -/
theorem read_open_fence (text : String) {ws : List WrittenBlock} {p o : Nat}
    (hfinds : Finds text.toList 0 ws p) (hopen : OpenAt text.toList p o) :
    (∃ rest, (r.read text).value = (r.read (String.ofList (text.toList.take o))).value ++ rest ∧
      Segment.Cover rest (text.toList.drop o) ∧
      ∀ x ∈ rest, x = .lineBreak ∨ ∃ line, x = .text line) ∧
    (r.blocks text).map CodeBlock.written = ws ∧
    (r.read text).entriesOf "Parser" =
      [⟨.info, "Parser", "[UNTERMINATED_FENCE] fence on line " ++
        toString (1 + (text.toList.take o).count '\n') ++
        " never closes, rendering the rest of the message as plain text"⟩] := by
  obtain ⟨u, t, xs, rfl, rfl, hu, hws⟩ := exists_readsAs_start (r := r) hfinds
  simp only [String.toList_ofList] at hopen ⊢
  obtain ⟨f, hf, hb, rfl⟩ := hopen.exists_pieces
  have hvalue : (r.read (String.ofList (u ++ t))).value =
      xs ++ (Prose.segments f.before ++ Prose.lines (f.line ++ '\n' :: f.body)) := by
    rw [hu.value_read, r.value_readFrom_of_open _ hf hb]
  have hsplit : u ++ t = (u ++ f.before) ++ (f.line ++ '\n' :: f.body) := by
    rw [append_eq_body hf u]
    simp only [List.append_assoc, List.singleton_append]
  have htake : (u ++ t).take (u.length + f.before.length) = u ++ f.before := by
    rw [hsplit, ← List.length_append, List.take_left]
  have hdrop : (u ++ t).drop (u.length + f.before.length) = f.line ++ '\n' :: f.body := by
    rw [hsplit, ← List.length_append, List.drop_left]
  rw [htake, hdrop]
  refine ⟨⟨Prose.lines (f.line ++ '\n' :: f.body), ?_, Prose.lines_cover _, ?_⟩, ?_, ?_⟩
  · rw [hvalue, hu.value_read, r.value_readFrom_of_eq_none _ (findOpening?_before hf),
      List.append_assoc]
  · exact fun x hx => Prose.eq_lineBreak_or_text_of_mem_linesOnto hx
  · rw [blocks, hvalue, Segment.blocks_append, Segment.blocks_append, Segment.blocks_prose,
      Segment.blocks_lines, List.append_nil, List.append_nil, hws]
  · rw [hu.entries_read, r.readFrom_of_open _ hf hb, List.count_append, ← Nat.add_assoc]
    rfl

theorem read_open_fence_javascript :
    (∃ rest, (standard.read "```py\nx\n```\r\n```js\n`z`").value =
        (standard.read "```py\nx\n```\r\n").value ++ rest ∧
      Segment.Cover rest "```js\n`z`".toList ∧
      ∀ x ∈ rest, x = .lineBreak ∨ ∃ line, x = .text line) ∧
    (standard.blocks "```py\nx\n```\r\n```js\n`z`").map CodeBlock.written =
      [⟨some "py", none, "x"⟩] ∧
    (standard.read "```py\nx\n```\r\n```js\n`z`").entriesOf "Parser" =
      [⟨.info, "Parser", "[UNTERMINATED_FENCE] fence on line " ++ toString 4 ++
        " never closes, rendering the rest of the message as plain text"⟩] := by
  have hpy : findOpening? none [] "```py\nx\n```\r\n```js\n`z`".toList =
      some ⟨[], ['p', 'y'], [], "```py".toList, "x\n```\r\n```js\n`z`".toList⟩ := rfl
  have hx : splitAtMarker? [] "x\n```\r\n```js\n`z`".toList =
      some (['x', '\n'], "\r\n```js\n`z`".toList) := rfl
  have hjs : findOpening? "```py\nx\n```".toList.getLast? [] "\r\n```js\n`z`".toList =
      some ⟨['\r', '\n'], ['j', 's'], [], "```js".toList, "`z`".toList⟩ := rfl
  have hz : splitAtMarker? [] "`z`".toList = none := rfl
  have hblock : BlockAt "```py\nx\n```\r\n```js\n`z`".toList 0 0 5 8 :=
    blockAt_of_findOpening? (a := []) hpy hx
  have hopen : OpenAt "```py\nx\n```\r\n```js\n`z`".toList 11 13 := openAt_of_findOpening? hjs hz
  have htake : "```py\nx\n```\r\n```js\n`z`".toList.take 13 = "```py\nx\n```\r\n".toList := rfl
  have hdrop : "```py\nx\n```\r\n```js\n`z`".toList.drop 13 = "```js\n`z`".toList := rfl
  have hcount : 1 + "```py\nx\n```\r\n".toList.count '\n' = 4 := rfl
  have hwritten : writtenAt "```py\nx\n```\r\n```js\n`z`".toList 0 5 8 = ⟨some "py", none, "x"⟩ :=
    rfl
  have hread :=
    standard.read_open_fence "```py\nx\n```\r\n```js\n`z`" (.block hblock .nothing) hopen
  rwa [htake, hdrop, hcount, hwritten, String.ofList_toList] at hread

end MessageReader

end FencedChat
