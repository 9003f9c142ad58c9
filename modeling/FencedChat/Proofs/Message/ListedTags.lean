import FencedChat.Proofs.Grammar.Registry
import FencedChat.Proofs.Message.Draft
import FencedChat.Proofs.Message.Extensions

/-!
Tags that the registry of the built-in languages lists, written behind a fence. The block gets the
tag, its extension and its grammar exactly if the tag is a word: of any other tag the fence takes
the word at its start, and the rest is taken for a filename.
-/

namespace FencedChat

open Fence (marker)

/-- Without further entries, the extension of a tag is that of the table of known tags. -/
theorem ExtensionResolver.resolve_standard (tag : Option String) :
    standard.resolve tag = extensionOf tag := by
  cases tag with
  | none => rfl
  | some t =>
    by_cases ht : t = ""
    · subst ht
      rfl
    · have hnone : last? [] t = none := rfl
      exact resolve_of_last?_eq_none ht hnone

namespace Highlighter

variable {h : Highlighter} {tag : String} {g : Grammar}

/-- The markup of a text by a grammar. Text that is too long is escaped only. -/
def renderWith (h : Highlighter) (g : Grammar) (code : String) : String :=
  if h.maxChars < code.length then Markup.escape code else markupOf (g.tokens code)

theorem render_value_of_get? (hg : h.registry.get? tag = some g) (code : String) :
    (h.render code (some tag)).value = h.renderWith g code := by
  have hb : (some tag).bind h.registry.get? = some g := hg
  unfold render grammarFor renderWith
  simp only [hb]
  split <;> rfl

end Highlighter

namespace Registry

variable {r : Registry} {tag : String}

/-- A listed tag that is in the form in which tags are looked up has a grammar. -/
theorem exists_get?_of_mem_tags (h : tag ∈ r.tags) (hn : normalTag tag = tag) (hne : tag ≠ "") :
    ∃ g, r.get? tag = some g := by
  rw [get?, if_neg hne, hn]
  cases hl : List.lookup tag r.byTag with
  | some g => exact ⟨g, rfl⟩
  | none =>
    obtain ⟨p, hp, rfl⟩ := List.mem_map.mp h
    have hk := List.lookup_eq_none_iff.mp hl p hp
    simp at hk

end Registry

namespace Language

theorem tags_registry :
    registry.tags =
      ["python", "py", "python3", "javascript", "js", "jsx", "node", "mjs", "typescript",
        "ts", "tsx", "java", "c", "h", "cpp", "c++", "cc", "cxx", "hpp", "csharp", "cs", "c#", "go",
        "golang", "rust", "rs", "html", "htm", "xml", "svg", "xhtml", "css", "scss", "less", "bash",
        "sh", "shell", "zsh", "console", "sql", "postgresql", "postgres", "mysql", "sqlite", "json",
        "jsonc", "json5", "yaml", "yml"] := by
  decide +kernel

theorem normalTag_of_mem_tags : ∀ t ∈ registry.tags, Registry.normalTag t = t ∧ t ≠ "" := by
  rw [tags_registry]
  decide +kernel

/-- Two of the listed tags are no words. -/
theorem all_isWordChar_iff_of_mem_tags :
    ∀ t ∈ registry.tags, t.toList.all isWordChar = true ↔ t ≠ "c++" ∧ t ≠ "c#" := by
  rw [tags_registry]
  decide +kernel

end Language

namespace MessageReader

/-- A message of one block with a tag. -/
def fenced (tag code : String) : String := "```" ++ tag ++ "\n" ++ code ++ "\n" ++ "```"

def builtin (maxChars : Int) : MessageReader := ⟨⟨Language.registry, maxChars⟩, .standard⟩

/-- What is read off the line behind the backticks of a fence that starts a message. -/
def lineOpening (line body : List Char) : Opening where
  before := []
  tag := line.takeWhile isWordChar
  hint := (line.dropWhile isWordChar).dropWhile fun c => c == ' ' || c == '\t'
  line := marker ++ line
  body := body

variable {r : MessageReader} {tag code : String} {b : CodeBlock} {markup : String}

/-- A message of one block is read as that block, whatever stands on its line. -/
theorem read_fenced (r : MessageReader) (tag code : String) (ht : '\n' ∉ tag.toList)
    (hm : ¬ marker <:+: code.toList) :
    (r.read (fenced tag code)).value =
      [r.blockSegment (lineOpening tag.toList (code.toList ++ '\n' :: marker))
        (code.toList ++ ['\n'])] := by
  have htext : (fenced tag code).toList =
      marker ++ (tag.toList ++ '\n' :: (code.toList ++ '\n' :: marker)) := by
    simp [fenced, marker]
  have ho : Fence.findOpening? none [] (fenced tag code).toList =
      some (lineOpening tag.toList (code.toList ++ '\n' :: marker)) := by
    rw [htext, Fence.findOpening?_marker rfl, Fence.openingAt?, Fence.line?_append ht]
    simp only [Fence.drop_length_takeWhile]
    rfl
  have hb := Fence.splitAtMarker?_newline_marker hm []
  rw [List.append_nil] at hb
  have hnil : Fence.findOpening? (some '`') [] [] = none := rfl
  have hprose : Prose.segments [] = [] := Prose.segments_of_notMem List.not_mem_nil
  rw [read, r.value_readFrom_of_closed 1 1 ho hb, r.value_readFrom_of_eq_none 1 hnil,
    lineOpening, hprose]
  rfl

/-- A line that is one word is the tag of its block. -/
theorem block_word (r : MessageReader) (hw : ∀ c ∈ tag.toList, isWordChar c = true) (hne : tag ≠ "")
    (he : code.toList.getLast? ≠ some '\r') (body : List Char) :
    r.block (lineOpening tag.toList body) (code.toList ++ ['\n']) =
      ⟨some tag, none, code, r.resolver.resolve (some tag),
        r.resolver.defaultFilename (some tag)⟩ := by
  have htake : tag.toList.takeWhile isWordChar = tag.toList := List.takeWhile_eq_self_iff.mpr hw
  have hdrop : tag.toList.dropWhile isWordChar = [] := List.dropWhile_eq_nil_iff.mpr hw
  have hnil : tag.toList.isEmpty = false := by simpa using hne
  unfold block lineOpening
  simp only [htake, hdrop, hnil, Fence.withoutLastNewline_append_newline he, Bool.false_eq_true,
    if_false, String.ofList_toList]
  rfl

/-- A tag that is read off a message is a word. -/
theorem isWordChar_of_read {text : String} (h : (r.read text).value = [.codeBlock b markup])
    (hb : b.tag = some tag) : ∀ c ∈ tag.toList, isWordChar c = true := by
  have hm := isWordChar_of_mem_read (h ▸ List.mem_singleton_self (Segment.codeBlock b markup))
  rwa [hb, Option.getD_some] at hm

theorem read_word (r : MessageReader) {g : Grammar} (hw : ∀ c ∈ tag.toList, isWordChar c = true)
    (hne : tag ≠ "") (hg : r.highlighter.registry.get? tag = some g)
    (hm : ¬ marker <:+: code.toList) (he : code.toList.getLast? ≠ some '\r') :
    (r.read (fenced tag code)).value =
      [.codeBlock ⟨some tag, none, code, r.resolver.resolve (some tag),
        r.resolver.defaultFilename (some tag)⟩ (r.highlighter.renderWith g code)] := by
  have hline : '\n' ∉ tag.toList := fun h => absurd (hw _ h) (by decide)
  have hlanguage (extension filename : String) :
      (CodeBlock.mk (some tag) none code extension filename).language = tag := if_neg hne
  rw [read_fenced r tag code hline hm, blockSegment, block_word r hw hne he, hlanguage,
    Highlighter.render_value_of_get? hg]

theorem defaultFilename_standard (hne : tag ≠ "") :
    ExtensionResolver.standard.defaultFilename (some tag) =
      tag ++ "." ++ extensionOf (some tag) := by
  simp only [ExtensionResolver.defaultFilename, if_neg hne, ExtensionResolver.resolve_standard]

/-- A block with a listed tag behind its fence gets the tag, no filename of its own, the extension
of the tag and the markup of the grammar of the tag, exactly if the tag is a word. All listed tags
are words but two. -/
theorem read_listedTag (maxChars : Int) (tag code : String) (ht : tag ∈ Language.registry.tags)
    (hm : ¬ marker <:+: code.toList) (he : code.toList.getLast? ≠ some '\r') :
    (∃ g, Language.registry.get? tag = some g ∧
      (((builtin maxChars).read (fenced tag code)).value =
          [.codeBlock ⟨some tag, none, code, extensionOf (some tag),
            tag ++ "." ++ extensionOf (some tag)⟩
              ((builtin maxChars).highlighter.renderWith g code)] ↔
        ∀ c ∈ tag.toList, isWordChar c = true)) ∧
      ((∀ c ∈ tag.toList, isWordChar c = true) ↔ tag ≠ "c++" ∧ tag ≠ "c#") := by
  constructor
  · obtain ⟨hn, hne⟩ := Language.normalTag_of_mem_tags tag ht
    obtain ⟨g, hg⟩ := Registry.exists_get?_of_mem_tags ht hn hne
    refine ⟨g, hg, fun h => isWordChar_of_read h rfl, fun hw => ?_⟩
    have hresolver : (builtin maxChars).resolver = ExtensionResolver.standard := rfl
    rw [read_word (builtin maxChars) hw hne hg hm he, hresolver, ExtensionResolver.resolve_standard,
      defaultFilename_standard hne]
  · rw [← List.all_eq_true]
    exact Language.all_isWordChar_iff_of_mem_tags tag ht

theorem read_listedTag_py :
    ∃ g, Language.registry.get? "py" = some g ∧
      (standard.read "```py\n``\n\n```").value =
        [.codeBlock ⟨some "py", none, "``\n", "py", "py.py"⟩
          (Highlighter.standard.renderWith g "``\n")] := by
  have ht : "py" ∈ Language.registry.tags := by
    rw [Language.tags_registry]
    decide
  obtain ⟨⟨g, hg, hread⟩, hword⟩ :=
    read_listedTag Highlighter.usualMaxChars "py" "``\n" ht (by decide) (by decide)
  exact ⟨g, hg, hread.mpr (hword.mpr (by decide))⟩

/-- A fence takes the letter at the start of a listed tag, and the rest for a filename. -/
theorem read_plusPlus :
    "c++" ∈ Language.registry.tags ∧
    (∃ markup, (standard.read "```c++\nx\n```").value =
      [.codeBlock ⟨some "c", some "++", "x", "c", "++"⟩ markup]) ∧
    ¬ ∃ markup, (standard.read "```c++\nx\n```").value =
      [.codeBlock ⟨some "c++", none, "x", "cpp", "c++.cpp"⟩ markup] := by
  have hread := read_fenced standard "c++" "x" (by decide) (by decide)
  have hblock : standard.block (lineOpening "c++".toList ("x".toList ++ '\n' :: marker))
      ("x".toList ++ ['\n']) = ⟨some "c", some "++", "x", "c", "++"⟩ := by
    decide +kernel
  rw [blockSegment, hblock] at hread
  refine ⟨?_, ⟨_, hread⟩, ?_⟩
  · rw [Language.tags_registry]
    decide
  · rintro ⟨markup, h⟩
    have he := hread.symm.trans h
    simp at he

end MessageReader

end FencedChat
