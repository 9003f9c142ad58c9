import FencedChat.Message.Reader
import FencedChat.Proofs.Highlight.Recovery
import FencedChat.Proofs.Message.Fence
import Mathlib.Data.List.Forall2

/-!
Reading loses nothing. A message is cut into consecutive slices, one for each segment that is read;
each loop of the reader hands on exactly the text that it does not consume itself.
-/

namespace FencedChat

open Fence (marker)

namespace Segment

/-- Whether a segment stands for a slice of a message. -/
def Covers : Segment → List Char → Prop
  | text s, w => w = s.toList ∧ w ≠ [] ∧ '\n' ∉ w
  | inlineCode code, w =>
    w = '`' :: code.toList ++ ['`'] ∧ code.toList ≠ [] ∧ '`' ∉ code.toList ∧ '\n' ∉ code.toList
  | lineBreak, w => w = ['\n'] ∨ w = ['\r', '\n']
  | codeBlock b _, w =>
    ∃ line ending,
      w = marker ++ ((b.tag.getD "").toList ++ line) ++ '\n' ::
        (b.code.toList ++ ending ++ marker) ∧
      '\n' ∉ (b.tag.getD "").toList ++ line ∧
      (b.tag.getD "").toList = ((b.tag.getD "").toList ++ line).takeWhile isWordChar ∧
      b.tag ≠ some "" ∧
      ending ∈ [[], ['\n'], ['\r', '\n']] ∧
      ¬ marker <:+: b.code.toList

/-- Segments stand for consecutive slices that make up a text. -/
def Cover (segments : List Segment) (s : List Char) : Prop :=
  ∃ slices : List (List Char), List.Forall₂ Covers segments slices ∧ slices.flatten = s

variable {xs ys : List Segment} {x : Segment} {s t w : List Char}

theorem Cover.nil : Cover [] [] := ⟨[], .nil, rfl⟩

theorem Cover.singleton (h : x.Covers w) : Cover [x] w :=
  ⟨[w], .cons h .nil, by simp⟩

theorem Cover.append (hx : Cover xs s) (hy : Cover ys t) : Cover (xs ++ ys) (s ++ t) := by
  obtain ⟨us, hus, rfl⟩ := hx
  obtain ⟨vs, hvs, rfl⟩ := hy
  exact ⟨us ++ vs, List.rel_append hus hvs, List.flatten_append⟩

theorem Cover.cons (h : x.Covers w) (hy : Cover ys t) : Cover (x :: ys) (w ++ t) :=
  Cover.append (.singleton h) hy

theorem Cover.exists_covers (h : Cover xs s) (hx : x ∈ xs) : ∃ w, x.Covers w := by
  obtain ⟨slices, hs, -⟩ := h
  induction hs with
  | nil => exact absurd hx List.not_mem_nil
  | cons hcovers _ ih =>
    rcases List.mem_cons.mp hx with rfl | hx
    · exact ⟨_, hcovers⟩
    · exact ih hx

end Segment

open Segment

namespace Prose

variable {s line code rest : List Char}

theorem textSegment_cover (h : '\n' ∉ line) : Cover (textSegment line) line.reverse := by
  unfold textSegment
  split
  · rename_i he
    rw [List.isEmpty_iff.mp he]
    exact .nil
  · rename_i he
    apply Cover.singleton
    refine ⟨by rw [String.toList_ofList], ?_, ?_⟩
    · simpa using he
    · simpa using h

/-- The line so far and the text to come are covered by the lines made of them. -/
theorem linesOnto_cover (h : '\n' ∉ line) (s : List Char) :
    Cover (linesOnto line s) (line.reverse ++ s) := by
  fun_induction linesOnto line s with
  | case1 line => simpa using textSegment_cover h
  | case2 line r ih =>
    exact (textSegment_cover h).append (.cons (w := ['\n']) (.inl rfl) (ih (by simp)))
  | case3 line r ih =>
    exact (textSegment_cover h).append (.cons (w := ['\r', '\n']) (.inr rfl) (ih (by simp)))
  | case4 line c r hc _ ih =>
    have hn : '\n' ∉ c :: line := by
      rw [List.mem_cons, not_or]
      exact ⟨fun he => hc he.symm, h⟩
    simpa using ih hn

theorem lines_cover (s : List Char) : Cover (lines s) s := linesOnto_cover (by simp) s

/-- Inline code runs to the next backtick on its line. -/
theorem inlineCode?_eq_some (h : inlineCode? s = some (code, rest)) :
    s = code ++ '`' :: rest ∧ code ≠ [] ∧ '`' ∉ code ∧ '\n' ∉ code := by
  unfold inlineCode? at h
  simp only [Fence.drop_length_takeWhile] at h
  split at h
  · simp at h
  · rename_i hne
    split at h
    · simp at h
    · rename_i r _ hd
      obtain ⟨rfl, rfl⟩ := Prod.mk.inj (Option.some.inj h)
      refine ⟨?_, by simpa using hne, fun hm => ?_, fun hm => ?_⟩
      · rw [← hd, List.takeWhile_append_dropWhile]
      · simpa using List.mem_takeWhile_imp hm
      · simpa using List.mem_takeWhile_imp hm
    · simp at h

theorem inlineCode_covers (h : inlineCode? s = some (code, rest)) :
    (Segment.inlineCode (String.ofList code)).Covers ('`' :: code ++ ['`']) := by
  obtain ⟨_, hne, hb, hn⟩ := inlineCode?_eq_some h
  simpa [Covers] using ⟨hne, hb, hn⟩

/-- The text since the last inline code and the text to come are covered. -/
theorem segmentsOnto_cover (prev : Option Char) (passed s : List Char) :
    Cover (segmentsOnto prev passed s) (passed.reverse ++ s) := by
  fun_induction segmentsOnto prev passed s with
  | case1 prev passed => simpa using lines_cover passed.reverse
  | case2 prev passed c r hc code rest h ih =>
    obtain ⟨rfl, _⟩ := inlineCode?_eq_some h
    have hw := Cover.cons (inlineCode_covers h) ih
    have := (lines_cover passed.reverse).append hw
    simpa [hc.1] using this
  | case3 prev passed c r hc _ ih => simpa using ih
  | case4 prev passed c r hc ih => simpa using ih

theorem segments_cover (s : List Char) : Cover (segments s) s := segmentsOnto_cover none [] s

variable {b : CodeBlock} {markup : String}

theorem codeBlock_notMem_textSegment (line : List Char) :
    .codeBlock b markup ∉ textSegment line := by
  unfold textSegment
  split <;> simp

theorem codeBlock_notMem_linesOnto (line s : List Char) :
    .codeBlock b markup ∉ linesOnto line s := by
  fun_induction linesOnto line s with
  | case1 line => exact codeBlock_notMem_textSegment line
  | case2 line r ih => simpa [codeBlock_notMem_textSegment] using ih
  | case3 line r ih => simpa [codeBlock_notMem_textSegment] using ih
  | case4 line c r _ _ ih => exact ih

theorem codeBlock_notMem_segments (s : List Char) : .codeBlock b markup ∉ segments s := by
  unfold segments
  fun_induction segmentsOnto none [] s with
  | case1 prev passed => exact codeBlock_notMem_linesOnto [] _
  | case2 prev passed c r _ code rest _ ih => simpa [lines, codeBlock_notMem_linesOnto] using ih
  | case3 prev passed c r _ _ ih => exact ih
  | case4 prev passed c r _ ih => exact ih

end Prose

namespace MessageReader

variable (r : MessageReader)

theorem toList_tag_block (o : Opening) (body : List Char) :
    ((r.block o body).tag.getD "").toList = o.tag ∧ (r.block o body).tag ≠ some "" := by
  simp only [block]
  split
  · rename_i he
    exact ⟨(List.isEmpty_iff.mp he).symm, by simp⟩
  · rename_i he
    refine ⟨String.toList_ofList, fun h => he ?_⟩
    rw [← String.toList_ofList (l := o.tag), Option.some.inj h]
    rfl

theorem block_covers {o : Opening} {l body : List Char} (markup : String)
    (hl : o.line = marker ++ l) (hn : '\n' ∉ l) (htag : o.tag = l.takeWhile isWordChar)
    (hb : ¬ marker <:+: body) :
    (Segment.codeBlock (r.block o body) markup).Covers (o.line ++ '\n' :: (body ++ marker)) := by
  obtain ⟨ht, hne⟩ := r.toList_tag_block o body
  obtain ⟨ending, he, hbody⟩ := Fence.withoutLastNewline_append body
  have hcode : (r.block o body).code.toList = Fence.withoutLastNewline body := String.toList_ofList
  have hline : o.tag ++ l.dropWhile isWordChar = l := by rw [htag, List.takeWhile_append_dropWhile]
  refine ⟨l.dropWhile isWordChar, ending, ?_, ?_, ?_, hne, he, ?_⟩
  · rw [ht, hline, hcode, hbody, hl]
  · rwa [ht, hline]
  · rw [ht, hline, htag]
  · intro hm
    have hp : Fence.withoutLastNewline body <+: body := ⟨ending, hbody⟩
    rw [hcode] at hm
    exact hb (hm.trans hp.isInfix)

/-- The segments read from a place on cover the text from there on. -/
theorem readFrom_cover (prev : Option Char) (line : Nat) (s : List Char) :
    Cover (r.readFrom prev line s).value s := by
  fun_induction r.readFrom prev line s with
  | case1 prev line s h => exact Prose.segments_cover s
  | case2 prev line s o h _ h' =>
    obtain ⟨b, l, hb, rfl, _⟩ := Fence.findOpening?_eq_some h
    obtain rfl : o.before = b := hb
    rw [List.append_assoc]
    exact (Prose.segments_cover o.before).append (Prose.lines_cover _)
  | case3 prev line s o h line' body rest h' block ih =>
    obtain ⟨b, l, hb, rfl, hl, hn, htag⟩ := Fence.findOpening?_eq_some h
    obtain rfl : o.before = b := hb
    obtain ⟨d, hd, hs, hm⟩ := Fence.splitAtMarker?_eq_some h'
    obtain rfl : body = d := hd
    -- the block ends at the first marker, so its body holds none
    have hbody : ¬ marker <:+: body := fun hi => hm (hi.trans (List.prefix_append _ _).isInfix)
    have hblock := Cover.cons (r.block_covers
      (r.highlighter.render block.code (some block.language)).value hl hn htag hbody) ih
    simpa [hs] using (Prose.segments_cover o.before).append hblock

variable {r} in
/-- A tag that is read off a message is a word. -/
theorem isWordChar_of_mem_read {text markup : String} {b : CodeBlock}
    (h : .codeBlock b markup ∈ (r.read text).value) :
    ∀ c ∈ (b.tag.getD "").toList, isWordChar c = true := by
  obtain ⟨w, line, _, -, -, ht, -⟩ := (r.readFrom_cover none 1 text.toList).exists_covers h
  intro c hc
  rw [ht] at hc
  exact List.mem_takeWhile_imp hc

variable {r} in
theorem isWordChar_of_mem_language {text : String} {b : CodeBlock} (h : b ∈ r.blocks text) :
    ∀ c ∈ b.language.toList, isWordChar c = true := by
  obtain ⟨x, hx, hb⟩ := List.mem_filterMap.mp h
  cases x with
  | codeBlock b' markup =>
    obtain rfl : b' = b := Option.some.inj hb
    have htag := isWordChar_of_mem_read hx
    have htext : ∀ c ∈ "text".toList, isWordChar c = true := List.all_eq_true.mp (by decide)
    unfold CodeBlock.language
    cases ht : b'.tag with
    | none => exact htext
    | some t =>
      rw [ht, Option.getD_some] at htag
      dsimp only
      split
      · exact htext
      · exact htag
  | _ => cases hb

/-- The markup of a block is that of its code. -/
theorem markup_of_mem_readFrom {prev : Option Char} {line : Nat} {s : List Char} {b : CodeBlock}
    {markup : String} (h : .codeBlock b markup ∈ (r.readFrom prev line s).value) :
    markup = (r.highlighter.render b.code (some b.language)).value := by
  fun_induction r.readFrom prev line s with
  | case1 prev line s _ => exact absurd h (Prose.codeBlock_notMem_segments s)
  | case2 prev line s o _ _ _ =>
    rcases List.mem_append.mp h with h | h
    · exact absurd h (Prose.codeBlock_notMem_segments o.before)
    · exact absurd h (Prose.codeBlock_notMem_linesOnto [] _)
  | case3 prev line s o _ line' body rest _ block ih =>
    rcases List.mem_append.mp h with h | h
    · exact absurd h (Prose.codeBlock_notMem_segments o.before)
    · rcases List.mem_cons.mp h with h | h
      · obtain ⟨rfl, rfl⟩ := Segment.codeBlock.inj h
        rfl
      · exact ih h

/-- A message is cut into consecutive slices, one for each segment in order, and the source text of
each block is recovered from its markup. -/
theorem read_slices (text : String) :
    (∃ slices : List (List Char),
      List.Forall₂ Segment.Covers (r.read text).value slices ∧ slices.flatten = text.toList) ∧
    ∀ b markup, .codeBlock b markup ∈ (r.read text).value → Markup.recover markup = .ok b.code := by
  refine ⟨r.readFrom_cover none 1 text.toList, fun b markup h => ?_⟩
  rw [r.markup_of_mem_readFrom h]
  exact Highlighter.recover_render _ _ _

end MessageReader

end FencedChat
