import FencedChat.CommandLine.Run
import FencedChat.Proofs.CommandLine.Printing
import FencedChat.Proofs.Console.StandardTerminal
import FencedChat.Proofs.Highlight.Views
import FencedChat.Proofs.Message.Filenames

/-!
The listing of the blocks of a message. A filename is handed over as text with style tags, in a cell
of the table and in the title of a panel. So on any terminal that reads tags it is shown as it
stands exactly if it is verbatim and drawn whole, and the listing ends in an error exactly if its
tags cannot be shown.
-/

namespace FencedChat

open Console StyleTag

namespace StyleTag

theorem verbatim_of_isWordChar (t : Terminal) {s : List Char} (h : ∀ c ∈ s, isWordChar c = true) :
    Verbatim t s := by
  refine verbatim_of_all t (List.all_eq_true.mpr fun c hc => isPlain_iff.mpr ⟨?_, ?_⟩)
  · have hne (d : Char) (hd : isWordChar d = false) : c ≠ d := by
      rintro rfl
      rw [h c hc] at hd
      cases hd
    exact signWeight_eq_zero (hne _ (by decide)) (hne _ (by decide)) (hne _ (by decide))
  · have hall : controlChars.all (fun d => !isWordChar d) = true := by decide
    rw [isUnshowable_eq, decide_eq_false_iff_not]
    intro hm
    have hword := List.all_eq_true.mp hall c hm
    rw [h c hc] at hword
    exact absurd hword (by decide)

theorem verbatim_toString (t : Terminal) (n : Nat) : Verbatim t (toString n).toList := by
  apply verbatim_of_isWordChar
  intro c hc
  rw [Nat.toString_eq_repr, Nat.toList_repr] at hc
  have hdigit : c.isDigit = true := Nat.isDigit_of_mem_toDigits (by decide) (by decide) hc
  have hascii : c.toNat < 0x80 := by
    simp only [Char.isDigit, ge_iff_le, Bool.and_eq_true, decide_eq_true_eq, UInt32.le_iff_toNat_le]
      at hdigit
    exact Nat.lt_of_le_of_lt hdigit.2 (by decide)
  simp [isWordChar, hascii, Char.isAlphanum, hdigit]

end StyleTag

variable {t : Terminal} {r : MessageReader} {text : String} {b : CodeBlock}

theorem CodeBlock.verbatim_language (t : Terminal) (h : b ∈ r.blocks text) :
    Verbatim t b.language.toList :=
  verbatim_of_isWordChar t (MessageReader.isWordChar_of_mem_language h)

theorem CodeBlock.shown_subtitle (hr : t.ReadsTags) (h : b ∈ r.blocks text) :
    t.shown ("[dim]" ++ b.language ++ "[/]") = .ok b.language := by
  have hend : b.language.toList.getLast? ≠ some '\\' := by
    intro he
    exact absurd (MessageReader.isWordChar_of_mem_language h _ (List.mem_of_getLast? he))
      (by decide)
  have hdim : "dim" ∈ Terminal.commandStyles := by decide
  exact (hr.shown_styled_iff hdim).mpr ⟨verbatim_language t h, hend⟩

namespace MessageReader

def blockOfLine (r : MessageReader) (line code : String) : CodeBlock :=
  r.block (lineOpening line.toList (code.toList ++ '\n' :: Fence.marker)) (code.toList ++ ['\n'])

theorem blocks_fenced (r : MessageReader) (line code : String) (hl : '\n' ∉ line.toList)
    (hc : ¬ Fence.marker <:+: code.toList) :
    r.blocks (fenced line code) = [r.blockOfLine line code] := by
  rw [blocks, r.read_fenced line code hl hc]
  rfl

end MessageReader

namespace Terminal

/-- A table can be drawn exactly if all of its cells can be shown. -/
theorem exists_tableLines_iff {table : Table} : (∃ lines, t.tableLines table = .ok lines) ↔
    ∀ row ∈ table.rows, ∀ s ∈ row, ∃ s', t.shown s = .ok s' := by
  unfold tableLines
  constructor
  · rintro ⟨lines, h⟩ row hrow
    obtain ⟨rows, hrows, -⟩ := bind_eq_ok_iff.mp h
    exact exists_mapM_eq_ok_iff.mp (exists_mapM_eq_ok_iff.mp ⟨rows, hrows⟩ row hrow)
  · intro h
    obtain ⟨rows, hrows⟩ :=
      exists_mapM_eq_ok_iff.mpr fun row hrow => exists_mapM_eq_ok_iff.mpr (h row hrow)
    exact ⟨_, bind_eq_ok_iff.mpr ⟨rows, hrows, rfl⟩⟩

theorem tableLines_of_shown {table : Table}
    (h : ∀ row ∈ table.rows, ∀ s ∈ row, t.shown s = .ok s) :
    t.tableLines table = .ok (t.draw (.table table.columns table.rows)) := by
  have hrow : ∀ row ∈ table.rows, row.mapM t.shown = .ok (id row) := by
    intro row hrow
    rw [mapM_eq_ok_map (g := id) (h row hrow), List.map_id, id]
  unfold tableLines
  rw [mapM_eq_ok_map hrow, List.map_id]
  rfl

end Terminal

namespace Command

/-- The title of the panel of a block, before its tags are read. -/
def panelTitle (b : CodeBlock) : String := styled "bold yellow" b.filename

def panelText (b : CodeBlock) : List Char :=
  (StyledText.ofSpans (Highlighter.standard.spans b.code (some b.language)).value).plain

def panelOf (t : Terminal) (b : CodeBlock) : Except TagError (List (List Char)) :=
  t.panelLines (panelTitle b) ("[dim]" ++ b.language ++ "[/]") (panelText b)

theorem prints_printBlock (t : Terminal) (b : CodeBlock) : (printBlock t b).Prints (panelOf t b) :=
  Action.prints_printLines _

/-- A panel shows what its title shows, and the language. -/
theorem panelOf_eq (hr : t.ReadsTags) (h : b ∈ r.blocks text) : panelOf t b =
    (t.shown (panelTitle b)).map fun s => t.draw (.panel s b.language (panelText b)) := by
  unfold panelOf Terminal.panelLines
  rw [CodeBlock.shown_subtitle hr h]
  cases t.shown (panelTitle b) <;> rfl

theorem panelOf_eq_ok_iff (hr : t.ReadsTags) (h : b ∈ r.blocks text) :
    (∃ lines, panelOf t b = .ok lines) ↔ ∃ s, t.shown (panelTitle b) = .ok s := by
  rw [panelOf_eq hr h]
  cases t.shown (panelTitle b) <;> simp [Except.map]

/-- Of the cells of the table, only the filenames can hold anything but words. -/
theorem forall_cells_iff {blocks : List CodeBlock} {p : String → Prop}
    (hn : ∀ n : Nat, p (toString n)) (hl : ∀ b ∈ blocks, p b.language) :
    (∀ row ∈ (blockTable blocks).rows, ∀ s ∈ row, p s) ↔ ∀ b ∈ blocks, p b.filename := by
  constructor
  · intro h b hb
    obtain ⟨i, hi, rfl⟩ := List.mem_iff_getElem.mp hb
    exact h _ (List.mem_mapIdx.mpr ⟨i, hi, rfl⟩) _ (by simp)
  · intro h row hrow s hs
    obtain ⟨i, hi, rfl⟩ := List.mem_mapIdx.mp hrow
    have hb : blocks[i] ∈ blocks := List.getElem_mem hi
    simp only [List.mem_cons, List.not_mem_nil, or_false] at hs
    rcases hs with rfl | rfl | rfl | rfl
    · exact hn _
    · exact h _ hb
    · exact hl _ hb
    · exact hn _

def panels (t : Terminal) (showCode : Bool) (blocks : List CodeBlock) :
    Except TagError (List (List Char)) :=
  if showCode then (blocks.mapM (panelOf t)).map List.flatten else .ok []

def listing (t : Terminal) (showCode : Bool) (blocks : List CodeBlock) :
    Except TagError (List (List Char)) :=
  if blocks.isEmpty then
    (t.shown "[yellow]No code blocks found[/yellow]").map fun s => t.draw (.text s)
  else do return (← t.tableLines (blockTable blocks)) ++ (← panels t showCode blocks)

variable {h : Host} {file : Option SourceFile} {showCode : Bool}

theorem prints_runBlocks (hText : messageText h file = pure text) :
    (runBlocks h file showCode).Prints
      (listing h.terminal showCode (MessageReader.standard.blocks text)) := by
  unfold runBlocks listing
  rw [hText, pure_bind]
  dsimp only
  split
  · exact Action.prints_printTagged _ _
  · refine (Action.prints_printLines _).seq ?_
    unfold panels
    split
    · exact Action.Prints.forM (prints_printBlock h.terminal) _
    · exact Action.prints_pure

theorem shown_noBlocks (hr : t.ReadsTags) :
    t.shown "[yellow]No code blocks found[/yellow]" = .ok "No code blocks found" := by
  have htags : "[yellow]No code blocks found[/yellow]" = named "yellow" "No code blocks found" := by
    decide
  rw [htags]
  exact hr.shown_named (by decide) (by decide)

theorem panels_eq_ok_iff (hr : t.ReadsTags) :
    (∃ lines, panels t showCode (r.blocks text) = .ok lines) ↔
      (showCode = true → ∀ b ∈ r.blocks text, ∃ s, t.shown (panelTitle b) = .ok s) := by
  unfold panels
  cases showCode with
  | false => simp
  | true =>
    have hall : (∃ panels, (r.blocks text).mapM (panelOf t) = .ok panels) ↔
        ∀ b ∈ r.blocks text, ∃ s, t.shown (panelTitle b) = .ok s :=
      exists_mapM_eq_ok_iff.trans (forall₂_congr fun _ hb => panelOf_eq_ok_iff hr hb)
    simp only [if_true, forall_const, ← hall]
    cases (r.blocks text).mapM (panelOf t) <;> simp [Except.map]

/-- The listing is printed exactly if all filenames can be shown. -/
theorem listing_eq_ok_iff (hr : t.ReadsTags) :
    (∃ lines, listing t showCode (r.blocks text) = .ok lines) ↔
      (∀ b ∈ r.blocks text, ∃ s, t.shown b.filename = .ok s) ∧
        (showCode = true → ∀ b ∈ r.blocks text, ∃ s, t.shown (panelTitle b) = .ok s) := by
  have hnumber (n : Nat) : ∃ s, t.shown (toString n) = .ok s :=
    ⟨_, hr.shown_eq_self_iff.mpr (verbatim_toString t n)⟩
  have hlanguage : ∀ b ∈ r.blocks text, ∃ s, t.shown b.language = .ok s := fun b hb =>
    ⟨_, hr.shown_eq_self_iff.mpr (CodeBlock.verbatim_language t hb)⟩
  unfold listing
  split
  · rename_i hempty
    rw [List.isEmpty_iff.mp hempty, shown_noBlocks hr]
    exact iff_of_true ⟨_, rfl⟩ ⟨List.forall_mem_nil _, fun _ => List.forall_mem_nil _⟩
  · have htable : (∃ lines, t.tableLines (blockTable (r.blocks text)) = .ok lines) ↔
        ∀ b ∈ r.blocks text, ∃ s, t.shown b.filename = .ok s :=
      Terminal.exists_tableLines_iff.trans
        (forall_cells_iff (p := fun s => ∃ s', t.shown s = .ok s') hnumber hlanguage)
    rw [← htable, ← panels_eq_ok_iff hr]
    constructor
    · rintro ⟨lines, h⟩
      obtain ⟨table, htable, h⟩ := bind_eq_ok_iff.mp h
      obtain ⟨panels, hpanels, -⟩ := bind_eq_ok_iff.mp h
      exact ⟨⟨table, htable⟩, panels, hpanels⟩
    · rintro ⟨⟨table, htable⟩, panels, hpanels⟩
      exact ⟨_, bind_eq_ok_iff.mpr ⟨table, htable, bind_eq_ok_iff.mpr ⟨panels, hpanels, rfl⟩⟩⟩

def literalTable (blocks : List CodeBlock) : Drawing :=
  .table (blockTable blocks).columns (blockTable blocks).rows

def literalPanel (b : CodeBlock) : Drawing := .panel b.filename b.language (panelText b)

def literalListing (t : Terminal) (showCode : Bool) (blocks : List CodeBlock) : List (List Char) :=
  if blocks.isEmpty then t.draw (.text "No code blocks found")
  else
    t.draw (literalTable blocks) ++
      if showCode then blocks.flatMap fun b => t.draw (literalPanel b) else []

theorem listing_eq_literalListing (hr : t.ReadsTags)
    (hcells : ∀ b ∈ r.blocks text, t.shown b.filename = .ok b.filename)
    (htitles : showCode = true → ∀ b ∈ r.blocks text, t.shown (panelTitle b) = .ok b.filename) :
    listing t showCode (r.blocks text) = .ok (literalListing t showCode (r.blocks text)) := by
  have hpanels : panels t showCode (r.blocks text) =
      .ok (if showCode then (r.blocks text).flatMap fun b => t.draw (literalPanel b) else []) := by
    cases showCode with
    | false => rfl
    | true =>
      have hall := mapM_eq_ok_map fun b (hb : b ∈ r.blocks text) =>
        (panelOf_eq hr hb).trans (congrArg _ (htitles rfl b hb))
      simp only [panels, if_true]
      rw [hall, List.flatMap_def]
      rfl
  have hnumber (n : Nat) : t.shown (toString n) = .ok (toString n) :=
    hr.shown_eq_self_iff.mpr (verbatim_toString t n)
  have htable := Terminal.tableLines_of_shown ((forall_cells_iff hnumber fun b hb =>
    hr.shown_eq_self_iff.mpr (CodeBlock.verbatim_language t hb)).mpr hcells)
  unfold listing literalListing
  split
  · rw [shown_noBlocks hr]
    rfl
  · rw [htable, hpanels]
    rfl

/-- Whether a terminal draws the filenames of blocks whole: each in a line of the table, and in the
first line of its panel. -/
structure DrawsNames (t : Terminal) (showCode : Bool) (blocks : List CodeBlock) : Prop where
  cells : ∀ b ∈ blocks, ∃ line ∈ t.draw (literalTable blocks), b.filename.toList <:+: line
  titles : showCode = true → ∀ b ∈ blocks,
    ∃ border ∈ (t.draw (literalPanel b)).head?, b.filename.toList <:+: border

/-- Whether a run of the command ends by itself and shows every filename as it stands: in the table,
in the titles of the panels, and so in all of the output, none of them cut off. -/
structure ShowsNames (h : Host) (file : Option SourceFile) (showCode : Bool)
    (blocks : List CodeBlock) : Prop where
  ends : (run h (.blocks file showCode)).2 = .status 0
  cells : ∀ b ∈ blocks, h.terminal.shown b.filename = .ok b.filename
  titles : showCode = true → ∀ b ∈ blocks, h.terminal.shown (panelTitle b) = .ok b.filename
  output : (run h (.blocks file showCode)).1.output =
    unlines (literalListing h.terminal showCode blocks)
  drawn : DrawsNames h.terminal showCode blocks

/-- Whether a terminal has room for the table of blocks, and for the titles of their panels. -/
structure HasRoom (showCode : Bool) (blocks : List CodeBlock) : Prop where
  cells : Table.Fits (blockTable blocks).columns
    ((blockTable blocks).rows.map (·.map String.toList))
  titles : showCode = true → ∀ b ∈ blocks, cellLength b.filename.toList + 2 ≤ titleWidth

theorem isWord_filename (hb : b ∈ MessageReader.standard.blocks text)
    (hv : Verbatim t b.filename.toList) : Terminal.IsWord b.filename :=
  fun c hc => ⟨MessageReader.isBlank_of_mem_filename hb c hc, hv.visible c hc⟩

theorem drawsNames_of_hasRoom (hd : t.DrawsWhole)
    (hv : ∀ b ∈ MessageReader.standard.blocks text, Verbatim t b.filename.toList)
    (hroom : HasRoom showCode (MessageReader.standard.blocks text)) :
    DrawsNames t showCode (MessageReader.standard.blocks text) where
  cells b hb := by
    obtain ⟨i, hi, rfl⟩ := List.mem_iff_getElem.mp hb
    exact hd.cells _ _ hroom.cells _ (List.mem_mapIdx.mpr ⟨i, hi, rfl⟩) 1 _ _ rfl rfl rfl
      (isWord_filename hb (hv _ hb))
  titles hcode b hb := hd.titles _ _ _ (isWord_filename hb (hv b hb)) (hroom.titles hcode b hb)

/-- How the command ends. -/
theorem run_blocks_ends_iff (hr : h.terminal.ReadsTags) (hText : messageText h file = pure text) :
    (run h (.blocks file showCode)).2 = .status 0 ↔
      (∀ b ∈ MessageReader.standard.blocks text, ∃ s, h.terminal.shown b.filename = .ok s) ∧
        (showCode = true →
          ∀ b ∈ MessageReader.standard.blocks text,
            ∃ s, h.terminal.shown (panelTitle b) = .ok s) := by
  have hprints : (runBlocks h file showCode).Prints _ := prints_runBlocks hText
  rw [← listing_eq_ok_iff hr]
  cases hl : listing h.terminal showCode (MessageReader.standard.blocks text) with
  | ok lines =>
    rw [hl] at hprints
    have hreport : run h (.blocks file showCode) = _ := hprints.report_of_ok
    rw [hreport]
    exact iff_of_true rfl ⟨lines, rfl⟩
  | error e =>
    rw [hl] at hprints
    obtain ⟨lines, hreport⟩ := hprints.report_of_error
    have hreport : run h (.blocks file showCode) = _ := hreport
    rw [hreport]
    exact iff_of_false (fun he => nomatch he) (by simp)

theorem showsNames_iff_verbatim (hr : h.terminal.ReadsTags)
    (hText : messageText h file = pure text) :
    ShowsNames h file showCode (MessageReader.standard.blocks text) ↔
      (∀ b ∈ MessageReader.standard.blocks text, Verbatim h.terminal b.filename.toList ∧
        (showCode = true → b.filename.toList.getLast? ≠ some '\\')) ∧
      DrawsNames h.terminal showCode (MessageReader.standard.blocks text) := by
  have hstyle : "bold yellow" ∈ Terminal.commandStyles := by decide
  constructor
  · intro hshows
    refine ⟨fun b hb => ⟨hr.shown_eq_self_iff.mp (hshows.cells b hb), fun hcode => ?_⟩,
      hshows.drawn⟩
    exact ((hr.shown_styled_iff hstyle).mp (hshows.titles hcode b hb)).2
  · rintro ⟨hnames, hdrawn⟩
    have hcells : ∀ b ∈ MessageReader.standard.blocks text,
        h.terminal.shown b.filename = .ok b.filename :=
      fun b hb => hr.shown_eq_self_iff.mpr (hnames b hb).1
    have htitles : showCode = true → ∀ b ∈ MessageReader.standard.blocks text,
        h.terminal.shown (panelTitle b) = .ok b.filename :=
      fun hcode b hb => (hr.shown_styled_iff hstyle).mpr ⟨(hnames b hb).1, (hnames b hb).2 hcode⟩
    have hprints : (runBlocks h file showCode).Prints _ := prints_runBlocks hText
    rw [listing_eq_literalListing hr hcells htitles] at hprints
    have hreport : run h (.blocks file showCode) = _ := hprints.report_of_ok
    exact ⟨by rw [hreport], hcells, htitles, by rw [hreport], hdrawn⟩

/-- On a terminal that reads tags, the filenames of a message are shown as they stand exactly if
they are drawn whole, none of them holds anything that a tagged text shows in another way, and with
panels none of them ends with a backslash, which would escape the tag behind it. Names with room are
drawn whole. The command ends by itself exactly if all filenames can be shown, so not if one of them
closes a tag that it does not open. -/
theorem showsNames_iff (h : Host) (file : Option SourceFile) (showCode : Bool) (text : String)
    (hr : h.terminal.ReadsTags) (hd : h.terminal.DrawsWhole)
    (hText : messageText h file = pure text) :
    (ShowsNames h file showCode (MessageReader.standard.blocks text) ↔
      (∀ b ∈ MessageReader.standard.blocks text, Verbatim h.terminal b.filename.toList ∧
        (showCode = true → b.filename.toList.getLast? ≠ some '\\')) ∧
      DrawsNames h.terminal showCode (MessageReader.standard.blocks text)) ∧
    (HasRoom showCode (MessageReader.standard.blocks text) →
      (ShowsNames h file showCode (MessageReader.standard.blocks text) ↔
        ∀ b ∈ MessageReader.standard.blocks text, Verbatim h.terminal b.filename.toList ∧
          (showCode = true → b.filename.toList.getLast? ≠ some '\\'))) ∧
    ((run h (.blocks file showCode)).2 = .status 0 ↔
      (∀ b ∈ MessageReader.standard.blocks text, ∃ s, h.terminal.shown b.filename = .ok s) ∧
        (showCode = true →
          ∀ b ∈ MessageReader.standard.blocks text, ∃ s, h.terminal.shown (panelTitle b) = .ok s)) ∧
    ∀ b ∈ MessageReader.standard.blocks text,
      ClosesTooMany (tags (pieces b.filename.toList)) →
      (run h (.blocks file showCode)).2 ≠ .status 0 := by
  have hends : (run h (.blocks file showCode)).2 = .status 0 ↔ _ := run_blocks_ends_iff hr hText
  refine ⟨showsNames_iff_verbatim hr hText, fun hroom => ?_, hends, fun b hb hcloses hstatus => ?_⟩
  · rw [showsNames_iff_verbatim hr hText]
    exact and_iff_left_of_imp fun hnames =>
      drawsNames_of_hasRoom hd (fun b hb => (hnames b hb).1) hroom
  · obtain ⟨e, he⟩ := hr.unmatched b.filename hcloses
    obtain ⟨s, hs⟩ := (hends.mp hstatus).1 b hb
    rw [he] at hs
    cases hs

def piping (input : String) : Host where
  file? _ := none
  input := input
  provider := .error (.missingKey "OPENAI_API_KEY")
  client _ := .error (.missingKey "OPENAI_API_KEY")

theorem messageText_piping {input : String} (hn : plainNewlines input = input) :
    messageText (piping input) none = pure input := congrArg pure hn

theorem terminal_piping (input : String) : (piping input).terminal = .standard := by rw [piping]

theorem readsTags_piping (input : String) : (piping input).terminal.ReadsTags :=
  (terminal_piping input).symm ▸ Terminal.readsTags_standard

/-- A name with a dot is shown as it stands, with and without panels. -/
theorem showsNames_module :
    (piping "```py app.py\nx\n```").terminal.ReadsTags ∧
      (piping "```py app.py\nx\n```").terminal.DrawsWhole ∧
      messageText (piping "```py app.py\nx\n```") none = pure "```py app.py\nx\n```" ∧
      HasRoom true (MessageReader.standard.blocks "```py app.py\nx\n```") ∧
      ShowsNames (piping "```py app.py\nx\n```") none true
        (MessageReader.standard.blocks "```py app.py\nx\n```") := by
  have hr := readsTags_piping "```py app.py\nx\n```"
  have hd := (terminal_piping "```py app.py\nx\n```").symm ▸ Terminal.drawsWhole_standard
  have hText := messageText_piping (by decide : plainNewlines "```py app.py\nx\n```" = _)
  have hblocks : MessageReader.standard.blocks "```py app.py\nx\n```" = _ :=
    MessageReader.blocks_fenced .standard "py app.py" "x" (by decide) (by decide)
  have hname : (MessageReader.standard.blockOfLine "py app.py" "x").filename = "app.py" := by
    decide +kernel
  have hroom : HasRoom true (MessageReader.standard.blocks "```py app.py\nx\n```") := by
    rw [hblocks]
    refine ⟨?_, fun _ b hb => ?_⟩
    · unfold Table.Fits
      decide +kernel
    · obtain rfl := List.mem_singleton.mp hb
      rw [hname]
      decide
  refine ⟨hr, hd, hText, hroom,
    ((showsNames_iff _ none true _ hr hd hText).2.1 hroom).mpr fun b hb => ?_⟩
  obtain rfl := List.mem_singleton.mp (hblocks ▸ hb)
  rw [hname]
  exact ⟨verbatim_of_all _ (by decide), fun _ => by decide⟩

theorem shown_route : Terminal.standard.shown "[id].tsx" = .ok ".tsx" := by
  have hkey : ∃ key, Style.nameKey (tagName "id".toList) = .ok key :=
    Style.exists_nameKey_word (by decide) (by decide) (by decide) (by decide)
  have hbody : IsBody "id".toList := ⟨'i', ['d'], rfl, by decide, by simp [isBracket]⟩
  have htags : "[id].tsx" = "[" ++ "id" ++ "]" ++ ".tsx" := by decide
  rw [htags]
  exact Terminal.shown_opened_standard hbody hkey (by decide) (by decide)

theorem closesTooMany_closing : ClosesTooMany (tags (pieces "[/]".toList)) := by
  have hpieces : pieces "[/]".toList = .tag 0 ['/'] :: piecesOnto [] 0 3 [] :=
    isBody_slash.pieces_eq []
  rw [hpieces, piecesOnto_nil]
  exact ⟨[['/']], List.prefix_rfl, by decide⟩

/-- Of a name that starts with a bracketed word, only the rest is shown. A name that is a closing
tag ends the command with an error. -/
theorem not_showsNames_route :
    messageText (piping "```tsx [id].tsx\nx\n```") none = pure "```tsx [id].tsx\nx\n```" ∧
      (∃ b ∈ MessageReader.standard.blocks "```tsx [id].tsx\nx\n```", b.filename = "[id].tsx" ∧
        (piping "```tsx [id].tsx\nx\n```").terminal.shown b.filename = .ok ".tsx") ∧
      ¬ ShowsNames (piping "```tsx [id].tsx\nx\n```") none false
        (MessageReader.standard.blocks "```tsx [id].tsx\nx\n```") ∧
      (run (piping "```tsx [/]\nx\n```") (.blocks none false)).2 ≠ .status 0 := by
  have hText := messageText_piping (by decide : plainNewlines "```tsx [id].tsx\nx\n```" = _)
  have hblocks := MessageReader.blocks_fenced .standard "tsx [id].tsx" "x" (by decide) (by decide)
  have hname : (MessageReader.standard.blockOfLine "tsx [id].tsx" "x").filename = "[id].tsx" := by
    decide +kernel
  have hmem : MessageReader.standard.blockOfLine "tsx [id].tsx" "x" ∈
      MessageReader.standard.blocks "```tsx [id].tsx\nx\n```" := hblocks ▸ List.mem_singleton_self _
  have hshown : (piping "```tsx [id].tsx\nx\n```").terminal.shown "[id].tsx" = .ok ".tsx" := by
    rw [terminal_piping, shown_route]
  refine ⟨hText, ⟨_, hmem, hname, hname ▸ hshown⟩, fun hshows => ?_, fun hends => ?_⟩
  · have hcell := hshows.cells _ hmem
    rw [hname, hshown] at hcell
    exact absurd (Except.ok.inj hcell) (by decide)
  · have hblocks := MessageReader.blocks_fenced .standard "tsx [/]" "x" (by decide) (by decide)
    have hname : (MessageReader.standard.blockOfLine "tsx [/]" "x").filename = "[/]" := by
      decide +kernel
    have hmem : MessageReader.standard.blockOfLine "tsx [/]" "x" ∈
        MessageReader.standard.blocks "```tsx [/]\nx\n```" := hblocks ▸ List.mem_singleton_self _
    have hr := readsTags_piping "```tsx [/]\nx\n```"
    have hText := messageText_piping (by decide : plainNewlines "```tsx [/]\nx\n```" = _)
    obtain ⟨s, hs⟩ := ((run_blocks_ends_iff hr hText).mp hends).1 _ hmem
    obtain ⟨e, he⟩ := hr.unmatched "[/]" closesTooMany_closing
    rw [hname, he] at hs
    cases hs

end Command

end FencedChat
