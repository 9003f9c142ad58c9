import FencedChat.Proofs.Message.Prose
import FencedChat.Proofs.Message.Reading

/-!
Drafts. A draft is prose with code blocks between, to be written as one message. Reading the message
gives the parts of the draft back: the opening line of a block carries its tag and its filename, the
first marker behind it closes the block, and the text behind that is read on.
-/

namespace FencedChat

open Fence (marker)

theorem firstWord?_of_forall {s : List Char} (h : ∀ c ∈ s, isBlank c = false) (hne : s ≠ []) :
    firstWord? s = some s := by
  cases s with
  | nil => exact absurd rfl hne
  | cons c s =>
    have hc : isBlank c = false := h c List.mem_cons_self
    have hd : (c :: s).dropWhile isBlank = c :: s := List.dropWhile_cons_of_neg (by simp [hc])
    have ht : (c :: s).takeWhile (fun c => !isBlank c) = c :: s := by
      rw [List.takeWhile_eq_self_iff]
      intro d hm
      rw [h d hm]
      rfl
    rw [firstWord?, hd, ht]

/-- A code block of a draft. Its tag and its filename are single words, its code holds no marker,
and the newline behind the code is not taken for one that follows a carriage return. -/
structure DraftBlock where
  tag : Option String
  filename : Option String
  code : String
  tag_word : ∀ t ∈ tag, t ≠ "" ∧ ∀ c ∈ t.toList, isWordChar c = true
  filename_word : ∀ f ∈ filename, f ≠ "" ∧ ∀ c ∈ f.toList, isBlank c = false
  code_marker : ¬ marker <:+: code.toList
  code_end : code.toList.getLast? ≠ some '\r'

namespace DraftBlock

variable (b : DraftBlock)

def text : String :=
  "```" ++ b.tag.getD "" ++ b.filename.elim "" (" " ++ ·) ++ "\n" ++ b.code ++ "\n" ++ "```"

def block (r : MessageReader) : CodeBlock :=
  let language := b.tag.getD "text"
  { tag := b.tag
    declaredName := b.filename
    code := b.code
    extension := r.resolver.resolve (some language)
    filename := b.filename.getD (r.resolver.defaultFilename (some language)) }

def segment (r : MessageReader) : Segment :=
  .codeBlock (b.block r) (r.highlighter.render b.code (some (b.tag.getD "text"))).value

def line : List Char := (b.tag.getD "").toList ++ b.filename.elim [] fun f => ' ' :: f.toList

def opening (before body : List Char) : Opening :=
  ⟨before, (b.tag.getD "").toList, (b.filename.getD "").toList, marker ++ b.line, body⟩

theorem toList_text :
    b.text.toList = marker ++ (b.line ++ '\n' :: (b.code.toList ++ '\n' :: marker)) := by
  unfold text line
  cases b.filename <;> simp [marker]

theorem isWordChar_of_mem_tag : ∀ c ∈ (b.tag.getD "").toList, isWordChar c = true := by
  cases ht : b.tag with
  | none => exact List.forall_mem_nil _
  | some t => exact (b.tag_word t ht).2

theorem isBlank_of_mem_filename : ∀ c ∈ (b.filename.getD "").toList, isBlank c = false := by
  cases hf : b.filename with
  | none => exact List.forall_mem_nil _
  | some f => exact (b.filename_word f hf).2

theorem newline_notMem_line : '\n' ∉ b.line := by
  unfold line
  rw [List.mem_append, not_or]
  constructor
  · intro h
    exact absurd (b.isWordChar_of_mem_tag _ h) (by decide)
  · have hf := b.isBlank_of_mem_filename
    cases h : b.filename with
    | none => exact List.not_mem_nil
    | some f =>
      rw [h] at hf
      intro hm
      rcases List.mem_cons.mp hm with he | hm
      · exact absurd he (by decide)
      · exact absurd (hf _ hm) (by decide)

/-- The tag ends before the blank, or with the line. -/
theorem takeWhile_line : b.line.takeWhile isWordChar = (b.tag.getD "").toList := by
  unfold line
  rw [List.takeWhile_append_of_pos b.isWordChar_of_mem_tag]
  cases b.filename with
  | none => exact List.append_nil _
  | some f =>
    have hs : isWordChar ' ' = false := by decide
    simp [hs]

/-- The filename follows the blank. -/
theorem dropWhile_line :
    ((b.line.drop (b.tag.getD "").toList.length).dropWhile fun c => c == ' ' || c == '\t') =
      (b.filename.getD "").toList := by
  have hf := b.isBlank_of_mem_filename
  unfold line
  rw [List.drop_left]
  cases h : b.filename with
  | none => rfl
  | some f =>
    rw [h] at hf
    cases hl : f.toList with
    | nil => simp [hl]
    | cons c l =>
      have hc : isBlank c = false := hf c (by simp [hl])
      have hs : c ≠ ' ' := fun he => by simp [he, isBlank] at hc
      have ht : c ≠ '\t' := fun he => by simp [he, isBlank] at hc
      simp [hl, hs, ht]

theorem openingAt?_line (before body : List Char) :
    Fence.openingAt? before (b.line ++ '\n' :: body) = some (b.opening before body) := by
  simp only [Fence.openingAt?, Fence.line?_append b.newline_notMem_line, takeWhile_line,
    dropWhile_line]
  rfl

theorem splitAtMarker?_code (rest : List Char) :
    Fence.splitAtMarker? [] (b.code.toList ++ '\n' :: (marker ++ rest)) =
      some (b.code.toList ++ ['\n'], rest) :=
  Fence.splitAtMarker?_newline_marker b.code_marker rest

theorem firstWord?_filename :
    (firstWord? (b.filename.getD "").toList).map String.ofList = b.filename := by
  have hb := b.isBlank_of_mem_filename
  cases hf : b.filename with
  | none => rfl
  | some f =>
    have hne : f.toList ≠ [] := by simpa using (b.filename_word f hf).1
    rw [hf, Option.getD_some] at hb
    rw [Option.getD_some, firstWord?_of_forall hb hne, Option.map_some, String.ofList_toList]

theorem tag_opening :
    (if (b.tag.getD "").toList.isEmpty then none else some (String.ofList (b.tag.getD "").toList)) =
      b.tag := by
  cases ht : b.tag with
  | none => rfl
  | some t =>
    have hne : t.toList ≠ [] := by simpa using (b.tag_word t ht).1
    simp [hne]

theorem language_block (r : MessageReader) : (b.block r).language = b.tag.getD "text" := by
  unfold CodeBlock.language block
  cases ht : b.tag with
  | none => rfl
  | some t => exact if_neg (b.tag_word t ht).1

theorem block_opening (r : MessageReader) (before body : List Char) :
    r.block (b.opening before body) (b.code.toList ++ ['\n']) = b.block r := by
  unfold MessageReader.block opening block
  simp only [tag_opening, firstWord?_filename, Fence.withoutLastNewline_append_newline b.code_end]
  rw [String.ofList_toList]

theorem blockSegment_opening (r : MessageReader) (before body : List Char) :
    r.blockSegment (b.opening before body) (b.code.toList ++ ['\n']) = b.segment r := by
  unfold MessageReader.blockSegment segment
  rw [block_opening, language_block]
  rfl

end DraftBlock

/-- Prose before code blocks, and prose behind the last of them. Prose holds no backticks, and a
blank stands before every block that does not start the message. -/
structure Draft where
  parts : List (String × DraftBlock)
  final : String
  parts_plain : ∀ p ∈ parts, '`' ∉ p.1.toList
  final_plain : '`' ∉ final.toList
  parts_blank : ∀ p ∈ parts, p.1 = "" ∨ ∃ c ∈ p.1.toList.getLast?, isBlank c = true
  parts_apart : ∀ p ∈ parts.tail, p.1 ≠ ""

namespace Draft

def text (d : Draft) : String :=
  String.join (d.parts.map fun (prose, b) => prose ++ b.text) ++ d.final

/-- The segments that are to be read. -/
def segments (r : MessageReader) (d : Draft) : List Segment :=
  d.parts.flatMap (fun (prose, b) => Prose.ofLines (prose.toList.splitOn '\n') ++ [b.segment r]) ++
    Prose.ofLines (d.final.toList.splitOn '\n')

end Draft

namespace MessageReader

variable (r : MessageReader)

/-- A block of a draft is read with the prose before it, and the text behind it on its own. -/
theorem value_readFrom_draftBlock {prev : Option Char} {p : List Char} (hp : '`' ∉ p)
    (hf : Fence.mayFollow (p.getLast?.or prev) = true) (b : DraftBlock) (line line' : Nat)
    (rest : List Char) :
    (r.readFrom prev line (p ++ (b.text.toList ++ rest))).value =
      Prose.lines p ++ b.segment r :: (r.readFrom (some '`') line' rest).value := by
  have htext : b.text.toList ++ rest =
      marker ++ (b.line ++ '\n' :: (b.code.toList ++ '\n' :: (marker ++ rest))) := by
    simp [b.toList_text]
  have ho : Fence.findOpening? prev [] (p ++ (b.text.toList ++ rest)) =
      some (b.opening p (b.code.toList ++ '\n' :: (marker ++ rest))) := by
    rw [htext, Fence.findOpening?_append_of_notMem hp, List.append_nil,
      Fence.findOpening?_marker hf, List.reverse_reverse, b.openingAt?_line]
  rw [r.value_readFrom_of_closed line line' ho (b.splitAtMarker?_code rest), b.blockSegment_opening]
  rw [← Prose.segments_of_notMem hp]
  rfl

theorem value_readFrom_of_notMem {s : List Char} (hs : '`' ∉ s) (prev : Option Char) (line : Nat) :
    (r.readFrom prev line s).value = Prose.lines s := by
  have hn := Fence.findOpening?_append_of_notMem hs prev [] []
  rw [List.append_nil] at hn
  rw [r.value_readFrom_of_eq_none line hn, Prose.segments_of_notMem hs]

theorem value_readFrom_parts {parts : List (String × DraftBlock)} {final : List Char}
    (hplain : ∀ p ∈ parts, '`' ∉ p.1.toList) (hfinal : '`' ∉ final)
    (hblank : ∀ p ∈ parts, p.1 = "" ∨ ∃ c ∈ p.1.toList.getLast?, isBlank c = true)
    (hapart : ∀ p ∈ parts.tail, p.1 ≠ "") (prev : Option Char)
    (hprev : Fence.mayFollow prev = true ∨ ∀ p ∈ parts.head?, p.1 ≠ "") (line : Nat) :
    (r.readFrom prev line (parts.flatMap (fun p => p.1.toList ++ p.2.text.toList) ++ final)).value =
      parts.flatMap (fun p => Prose.lines p.1.toList ++ [p.2.segment r]) ++ Prose.lines final := by
  induction parts generalizing prev line with
  | nil => exact r.value_readFrom_of_notMem hfinal prev line
  | cons p parts ih =>
    obtain ⟨prose, b⟩ := p
    have hp : '`' ∉ prose.toList := hplain _ List.mem_cons_self
    have hf : Fence.mayFollow (prose.toList.getLast?.or prev) = true := by
      rcases hblank _ List.mem_cons_self with he | ⟨c, hc, hb⟩
      · rcases hprev with hprev | hne
        · obtain rfl : prose = "" := he
          exact hprev
        · exact absurd he (hne _ rfl)
      · rw [Option.mem_def.mp hc]
        exact hb
    -- behind a block no fence may open at once, so the prose of the next part is needed
    have hrest := ih (fun p hm => hplain p (List.mem_cons_of_mem _ hm))
      (fun p hm => hblank p (List.mem_cons_of_mem _ hm))
      (fun p hm => hapart p (List.mem_of_mem_tail hm))
      (some '`') (.inr fun p hm => hapart p (List.mem_of_mem_head? hm)) 1
    simp only [List.flatMap_cons, List.append_assoc]
    rw [r.value_readFrom_draftBlock hp hf b line 1, hrest]
    simp

/-- A message that is written from a draft is read as the parts of the draft. -/
theorem read_draft (d : Draft) : (r.read d.text).value = d.segments r := by
  have htext : d.text.toList =
      d.parts.flatMap (fun p => p.1.toList ++ p.2.text.toList) ++ d.final.toList := by
    unfold Draft.text
    rw [String.toList_append, String.toList_join, List.flatMap_map]
    simp
  have hparts := r.value_readFrom_parts d.parts_plain d.final_plain d.parts_blank d.parts_apart
    none (.inl rfl) 1
  unfold read Draft.segments
  rw [htext, hparts]
  simp only [Prose.lines_eq_ofLines]

def namedBlock : DraftBlock where
  tag := some "py"
  filename := some "a.py"
  code := "x\n\n``"
  tag_word := by
    rintro t ⟨⟩
    exact ⟨by decide, List.all_eq_true.mp rfl⟩
  filename_word := by
    rintro f ⟨⟩
    refine ⟨by decide, fun c hc => ?_⟩
    simpa using List.any_eq_false.mp (rfl : "a.py".toList.any isBlank = false) c hc
  code_marker := by decide
  code_end := by decide

def emptyBlock : DraftBlock where
  tag := none
  filename := none
  code := ""
  tag_word := by simp
  filename_word := by simp
  code_marker := by decide
  code_end := by decide

/-- A named block at the start of a message, and an empty one behind prose. -/
def draftOfTwo : Draft where
  parts := [("", namedBlock), ("\r\n and\t", emptyBlock)]
  final := "\n\nend"
  parts_plain := by simp
  final_plain := by decide
  parts_blank := by simp [isBlank]
  parts_apart := by simp

theorem read_draftOfTwo :
    (standard.read "```py a.py\nx\n\n``\n```\r\n and\t```\n\n```\n\nend").value =
      [.codeBlock ⟨some "py", some "a.py", "x\n\n``", "py", "a.py"⟩
          (Highlighter.standard.render "x\n\n``" (some "py")).value,
        .lineBreak, .text " and\t",
        .codeBlock ⟨none, none, "", "txt", "text.txt"⟩
          (Highlighter.standard.render "" (some "text")).value,
        .lineBreak, .lineBreak, .text "end"] := by
  have hread := read_draft standard draftOfTwo
  have htext : draftOfTwo.text =
      "```py a.py\nx\n\n``\n```\r\n and\t```\n\n```\n\nend" := by decide
  rw [← htext, hread]
  rfl

end MessageReader

end FencedChat
