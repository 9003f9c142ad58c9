import FencedChat.Proofs.Language.Keys
import FencedChat.Proofs.Message.ListedTags
import FencedChat.Proofs.Message.Slices

/-!
The filename of a block is one word: the first word behind its tag, or a name that is made of the
tag and its extension.
-/

namespace FencedChat

theorem isBlank_of_isWordChar {c : Char} (h : isWordChar c = true) : isBlank c = false := by
  cases hb : isBlank c with
  | false => rfl
  | true =>
    rw [isWordChar_of_isBlank hb] at h
    cases h

theorem isBlank_of_mem_firstWord? {s w : List Char} (h : firstWord? s = some w) :
    ∀ c ∈ w, isBlank c = false := by
  unfold firstWord? at h
  split at h
  · cases h
  · obtain rfl := Option.some.inj h
    intro c hc
    simpa using List.mem_takeWhile_imp hc

theorem isBlank_of_mem_extensionOf (tag : Option String) :
    ∀ c ∈ (extensionOf tag).toList, isBlank c = false := by
  have htable : ∀ p ∈ extensionTable, p.2.toList.all (fun c => !isBlank c) = true := by decide
  have husual : usualExtension.toList.all (fun c => !isBlank c) = true := by decide
  have hall : (extensionOf tag).toList.all (fun c => !isBlank c) = true := by
    unfold extensionOf
    split
    · exact husual
    · split
      · exact husual
      · rename_i t _
        cases ht : List.lookup (extensionKey t) extensionTable with
        | none => exact husual
        | some e => exact htable _ (Listing.mem_of_lookup ht)
  simpa using hall

namespace MessageReader

variable {r : MessageReader} {text : String} {b : CodeBlock}

theorem exists_block_of_mem_readFrom {prev : Option Char} {line : Nat} {s : List Char}
    {markup : String}
    (h : .codeBlock b markup ∈ (r.readFrom prev line s).value) : ∃ o body, b = r.block o body := by
  fun_induction r.readFrom prev line s with
  | case1 prev line s _ => exact absurd h (Prose.codeBlock_notMem_segments s)
  | case2 prev line s o _ _ _ =>
    rcases List.mem_append.mp h with h | h
    · exact absurd h (Prose.codeBlock_notMem_segments o.before)
    · exact absurd h (Prose.codeBlock_notMem_linesOnto [] _)
  | case3 prev line s o _ line' body rest _ block ih =>
    rcases List.mem_append.mp h with h | h
    · exact absurd h (Prose.codeBlock_notMem_segments o.before)
    · rcases List.mem_cons.mp h with h | h
      · exact ⟨o, body, (Segment.codeBlock.inj h).1⟩
      · exact ih h

theorem exists_block_of_mem_blocks (h : b ∈ r.blocks text) : ∃ o body, b = r.block o body := by
  obtain ⟨x, hx, hb⟩ := List.mem_filterMap.mp h
  cases x with
  | codeBlock b' markup =>
    obtain rfl : b' = b := Option.some.inj hb
    exact exists_block_of_mem_readFrom hx
  | _ => cases hb

/-- A block without a filename of its own is named by its language. -/
theorem filename_block (r : MessageReader) (o : Opening) (body : List Char) :
    (r.block o body).filename = ((firstWord? o.hint).map String.ofList).getD
      ((r.block o body).language ++ "." ++
        r.resolver.resolve (some (r.block o body).language)) := by
  have hname : r.resolver.defaultFilename (some ((r.block o body).tag.getD "text")) =
      (r.block o body).language ++ "." ++ r.resolver.resolve (some (r.block o body).language) := by
    unfold CodeBlock.language ExtensionResolver.defaultFilename
    cases (r.block o body).tag <;> rfl
  rw [← hname]
  rfl

theorem isBlank_of_mem_filename (h : b ∈ MessageReader.standard.blocks text) :
    ∀ c ∈ b.filename.toList, isBlank c = false := by
  have hlanguage := isWordChar_of_mem_language h
  obtain ⟨o, body, rfl⟩ := exists_block_of_mem_blocks h
  rw [filename_block]
  cases hword : firstWord? o.hint with
  | some w =>
    rw [Option.map_some, Option.getD_some, String.toList_ofList]
    exact isBlank_of_mem_firstWord? hword
  | none =>
    rw [Option.map_none, Option.getD_none, show standard.resolver = .standard from rfl,
      ExtensionResolver.resolve_standard]
    simp only [String.toList_append, List.mem_append]
    rintro c ((hc | hc) | hc)
    · exact isBlank_of_isWordChar (hlanguage c hc)
    · obtain rfl : c = '.' := by simpa using hc
      decide
    · exact isBlank_of_mem_extensionOf _ c hc

end MessageReader

end FencedChat
