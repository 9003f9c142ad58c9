import FencedChat.Proofs.Console.StyleTags
import FencedChat.Proofs.Text.Blank
import Mathlib.Algebra.Order.BigOperators.Group.List
import Mathlib.Algebra.Order.Ring.Nat
import Mathlib.Data.List.Fold
import Mathlib.Data.List.MinMax

/-!
The standard terminal keeps the laws that the commands rely on. Open styles are kept on a stack, so
a closing tag takes away one of those before it, and a table or a panel with room for its words
changes none of them.
-/

namespace FencedChat

open Console StyleTag

namespace Console

theorem exists_isColor {word : String} (h : isMixedColor word.toList = .ok false) :
    ∃ b, isColor word = .ok b := by
  unfold isColor
  split
  · exact ⟨true, rfl⟩
  · exact ⟨false, h⟩

namespace Style

theorem exists_nameKey {name : List Char}
    (h : ∃ style?, ofWordsOnto {} (wordsOf name) = .ok style?) :
    ∃ key, nameKey name = .ok key := by
  obtain ⟨style?, h⟩ := h
  unfold nameKey
  rw [h]
  cases style? with
  | none => exact ⟨_, rfl⟩
  | some style => exact ⟨_, rfl⟩

/-- Whether a last word is found among the names of colors does not matter: it can be read in any
case. -/
theorem exists_ofWordsOnto_word {word : String} (hlower : lower word = word)
    (hnone : StyleAttribute.ofWord? word = none) (hmixed : isMixedColor word.toList = .ok false)
    (style : Style) : ∃ style?, ofWordsOnto style [word] = .ok style? := by
  obtain ⟨b, hb⟩ := exists_isColor hmixed
  simp only [ofWordsOnto, hlower, hnone, hb]
  exact ⟨_, rfl⟩

theorem exists_nameKey_word {word : String} (hlower : lower word = word)
    (hnone : StyleAttribute.ofWord? word = none) (hmixed : isMixedColor word.toList = .ok false)
    (hwords : wordsOf (tagName word.toList) = [word]) :
    ∃ key, nameKey (tagName word.toList) = .ok key :=
  exists_nameKey (hwords ▸ exists_ofWordsOnto_word hlower hnone hmixed {})

theorem exists_nameKey_boldYellow : ∃ key, nameKey (tagName "bold yellow".toList) = .ok key := by
  have hwords : wordsOf (tagName "bold yellow".toList) = ["bold", "yellow"] := by decide
  have hyellow (style : Style) : ∃ style?, ofWordsOnto style ["yellow"] = .ok style? :=
    exists_ofWordsOnto_word (by decide) (by decide) (by decide) style
  apply exists_nameKey
  rw [hwords]
  exact hyellow { attributes := [(.bold, true)] }

/-- The styles of the commands can be read. -/
theorem exists_nameKey_of_mem {style : String} (h : style ∈ Terminal.commandStyles) :
    ∃ key, nameKey (tagName style.toList) = .ok key := by
  simp only [Terminal.commandStyles, List.mem_cons, List.not_mem_nil, or_false] at h
  rcases h with rfl | rfl | rfl | rfl
  · exact exists_nameKey_boldYellow
  · exact ⟨"dim".toList, by decide⟩
  · exact exists_nameKey_word (by decide) (by decide) (by decide) (by decide)
  · exact exists_nameKey_word (by decide) (by decide) (by decide) (by decide)

end Style

end Console

namespace StyleTag

variable {stack : List (List Char)} {ps : List Piece} {body out : List Char} {position : Nat}

theorem tagName_of_isClosing (h : isClosing body = true) : ∃ name, tagName body = '/' :: name := by
  cases body with
  | nil => cases h
  | cons c r =>
    obtain rfl : c = '/' := by simpa [isClosing] using h
    exact ⟨_, List.takeWhile_cons_of_pos (by decide)⟩

theorem isClosing_of_tagName {name : List Char} (h : tagName body = '/' :: name) :
    isClosing body = true := by
  cases body with
  | nil => cases h
  | cons c r =>
    have hhead : (tagName (c :: r)).head? = some '/' := by rw [h]; rfl
    unfold tagName at hhead
    by_cases hc : c = '='
    · simp [hc] at hhead
    · simpa [hc, isClosing] using hhead

/-- What is left of the open styles behind a tag: one less, or one more. -/
theorem exists_shownFrom_rest (h : shownFrom stack (.tag position body :: ps) = .ok out) :
    ∃ stack', shownFrom stack' ps = .ok out ∧
      if isClosing body then stack'.length + 1 = stack.length
        else stack'.length = stack.length + 1 := by
  rw [shownFrom.eq_def] at h
  dsimp only at h
  split at h
  · rename_i name hname
    simp only [isClosing_of_tagName hname, if_true]
    split at h
    · split at h
      · cases h
      · exact ⟨_, h, rfl⟩
    · obtain ⟨key, -, h⟩ := bind_eq_ok_iff.mp h
      split at h
      · rename_i hmem
        have hkey : key ∈ stack := by simpa using hmem
        refine ⟨_, h, ?_⟩
        rw [List.length_erase_of_mem hkey]
        have := List.length_pos_of_mem hkey
        omega
      · cases h
  · rename_i hname
    obtain ⟨key, -, h⟩ := bind_eq_ok_iff.mp h
    refine ⟨_, h, ?_⟩
    rw [if_neg fun hclosing => ?_, List.length_cons]
    obtain ⟨name, he⟩ := tagName_of_isClosing hclosing
    exact hname name he

theorem eq_visible_of_shownFrom (h : shownFrom stack ps = .ok out) :
    out = visible namedEmoji? ps := by
  induction ps generalizing stack out with
  | nil => exact (Except.ok.inj h).symm
  | cons p ps ih =>
    cases p with
    | text s =>
      rw [shownFrom.eq_def] at h
      obtain ⟨rest, hr, rfl⟩ := map_eq_ok_iff.mp h
      rw [visible_text, ih hr]
    | tag position body =>
      obtain ⟨stack', hr, -⟩ := exists_shownFrom_rest h
      exact ih hr

/-- A text that can be shown closes no more styles than are open. -/
theorem countP_isClosing_le (h : shownFrom stack ps = .ok out) {before : List (List Char)}
    (hb : before <+: tags ps) :
    before.countP isClosing ≤ stack.length + before.countP (!isClosing ·) := by
  induction ps generalizing stack out before with
  | nil =>
    obtain rfl := List.prefix_nil.mp hb
    simp
  | cons p ps ih =>
    cases p with
    | text s =>
      rw [shownFrom.eq_def] at h
      obtain ⟨rest, hr, -⟩ := map_eq_ok_iff.mp h
      exact ih hr hb
    | tag position body =>
      obtain ⟨stack', hr, hlength⟩ := exists_shownFrom_rest h
      rcases List.prefix_cons_iff.mp hb with rfl | ⟨rest, rfl, hrest⟩
      · simp
      · have hcount := ih hr hrest
        rw [List.countP_cons, List.countP_cons]
        cases hc : isClosing body with
        | true =>
          rw [hc, if_pos rfl] at hlength
          simp only [if_true, Bool.not_true, Bool.false_eq_true, if_false]
          omega
        | false =>
          rw [hc, if_neg Bool.false_ne_true] at hlength
          simp only [Bool.false_eq_true, if_false, Bool.not_false, if_true]
          omega

theorem exists_shownFrom_text (s : List Char) (h : ∃ out, shownFrom stack ps = .ok out) :
    ∃ out, shownFrom stack (.text s :: ps) = .ok out := by
  obtain ⟨out, h⟩ := h
  exact ⟨_, by rw [shownFrom.eq_def]; exact map_eq_ok_iff.mpr ⟨out, h, rfl⟩⟩

/-- Ordinary text can be shown whatever styles are open. -/
theorem exists_shownFrom_nil (htags : tags ps = []) : ∃ out, shownFrom stack ps = .ok out := by
  induction ps with
  | nil => exact ⟨[], rfl⟩
  | cons p ps ih =>
    cases p with
    | text s => exact exists_shownFrom_text s (ih htags)
    | tag position body => cases htags

/-- Whether a text can be shown depends on its tags only, the first of which comes first. -/
theorem exists_shownFrom_cons {bodies : List (List Char)} (htags : tags ps = body :: bodies)
    (h : ∀ position qs, tags qs = bodies →
      ∃ out, shownFrom stack (.tag position body :: qs) = .ok out) :
    ∃ out, shownFrom stack ps = .ok out := by
  induction ps with
  | nil => cases htags
  | cons p ps ih =>
    cases p with
    | text s => exact exists_shownFrom_text s (ih htags)
    | tag position body' =>
      obtain ⟨rfl, hrest⟩ := List.cons.inj htags
      exact h position ps hrest

theorem shownFrom_opening {key : List Char} (hkey : Style.nameKey (tagName body) = .ok key)
    (hopening : isClosing body = false) :
    shownFrom stack (.tag position body :: ps) = shownFrom (key :: stack) ps := by
  rw [shownFrom.eq_def]
  dsimp only
  split
  · rename_i hname
    rw [isClosing_of_tagName hname] at hopening
    cases hopening
  · rw [hkey]
    rfl

theorem shownFrom_closing :
    shownFrom (body :: stack) (.tag position ['/'] :: ps) = shownFrom stack ps := by
  rw [shownFrom.eq_def]
  rfl

theorem shownFrom_closing_named {key : List Char} (hkey : Style.nameKey (tagName body) = .ok key) :
    shownFrom (key :: stack) (.tag position ('/' :: body) :: ps) = shownFrom stack ps := by
  have hname : tagName ('/' :: body) = '/' :: tagName body := rfl
  rw [shownFrom.eq_def]
  simp only [hname, hkey]
  split
  · rfl
  · simp [bind, Except.bind, Except.mapError]

theorem shown_eq_ok_iff {s t : String} :
    StyleTag.shown s = .ok t ↔ shownFrom [] (pieces s.toList) = .ok t.toList := by
  rw [StyleTag.shown, map_eq_ok_iff]
  constructor
  · rintro ⟨out, h, rfl⟩
    rwa [String.toList_ofList]
  · intro h
    exact ⟨t.toList, h, String.ofList_toList⟩

theorem exists_shown_iff {s : String} :
    (∃ t, StyleTag.shown s = .ok t) ↔ ∃ out, shownFrom [] (pieces s.toList) = .ok out := by
  constructor
  · rintro ⟨t, h⟩
    exact ⟨_, shown_eq_ok_iff.mp h⟩
  · rintro ⟨out, h⟩
    exact ⟨String.ofList out, shown_eq_ok_iff.mpr (by rwa [String.toList_ofList])⟩

end StyleTag

namespace Console

variable {s : List Char}

/-- What stands before the blanks at the end of a text is kept. -/
theorem append_prefix_trimEndChars {t : List Char} (hs : ∀ c ∈ s.getLast?, isBlank c = false) :
    s <+: trimEndChars (s ++ t) := by
  obtain ⟨blanks, hsplit, hblanks, -⟩ := exists_trimEndChars (s ++ t)
  rcases List.append_eq_append_iff.mp hsplit with ⟨between, hcut, -⟩ | ⟨between, hcut, hrest⟩
  · exact ⟨between, hcut.symm⟩
  · -- the blanks would reach into the text, which ends in no blank
    cases hlast : between.getLast? with
    | none =>
      rw [List.getLast?_eq_none_iff.mp hlast, List.append_nil] at hcut
      exact hcut ▸ List.prefix_rfl
    | some c =>
      have hc : c ∈ between := List.mem_of_getLast? hlast
      have hblank := hblanks c (hrest ▸ List.mem_append_left t hc)
      have hend : s.getLast? = some c := by rw [hcut, List.getLast?_append, hlast]; rfl
      rw [hs c hend] at hblank
      cases hblank

/-- Only blanks are lost beyond a width. -/
theorem prefix_trimBeyond {t : List Char} (width : Nat) (hs : ∀ c ∈ s.getLast?, isBlank c = false) :
    s <+: trimBeyond width (s ++ t) := by
  obtain ⟨blanks, hsplit, -, -⟩ := exists_trimEndChars (s ++ t)
  have htrim : trimEndChars (s ++ t) <+: trimBeyond width (s ++ t) :=
    List.prefix_take_iff.mpr ⟨⟨blanks, hsplit.symm⟩, Nat.le_max_right _ _⟩
  exact (append_prefix_trimEndChars hs).trans htrim

theorem infix_titledBorder (left right : Char) {title : List Char}
    (hfits : cellLength title + 2 ≤ titleWidth)
    (hword : ∀ c ∈ title, isBlank c = false) : title <:+: titledBorder left right title := by
  have hcrop : crop titleWidth (' ' :: title ++ [' ']) = ' ' :: title ++ [' '] := by
    apply crop_of_fits
    have hblank : cellWidth ' ' = 1 := rfl
    simp only [List.cons_append, cellLength_cons, cellLength_append, cellLength_nil, hblank]
    omega
  by_cases hempty : title = []
  · rw [hempty]
    exact List.nil_infix
  simp only [titledBorder, hcrop]
  generalize titleWidth - cellLength (' ' :: title ++ [' ']) = room
  have hlast :
      ∀ c ∈ (List.replicate (room / 2) '─' ++ ' ' :: title).getLast?, isBlank c = false := by
    intro c hc
    rw [List.getLast?_append, List.getLast?_cons_of_ne_nil hempty] at hc
    obtain ⟨d, hd⟩ := List.getLast?_isSome.mpr hempty |> Option.isSome_iff_exists.mp
    rw [hd] at hc
    obtain rfl := Option.mem_some.mp hc
    exact hword _ (List.mem_of_getLast? hd)
  have hprefix :=
    prefix_trimBeyond titleWidth (t := ' ' :: List.replicate (room - room / 2) '─') hlast
  have htitle : title <:+: List.replicate (room / 2) '─' ++ ' ' :: title :=
    ((List.suffix_cons ' ' title).trans (List.suffix_append _ _)).isInfix
  have hwhole :
      List.replicate (room / 2) '─' ++ ' ' :: title ++ ' ' :: List.replicate (room - room / 2) '─' =
      List.replicate (room / 2) '─' ++ (' ' :: title ++ [' ']) ++
        List.replicate (room - room / 2) '─' := by
    simp
  rw [hwhole] at hprefix
  exact (htitle.trans hprefix.isInfix).trans ⟨[left, '─'], ['─', right], by simp⟩

namespace Table

theorem divNearest_zero (count : Nat) : divNearest 0 count = 0 := by
  simp [divNearest]

theorem takeShares_zero (limit count : Nat) (ws : List (Nat × Bool)) :
    takeShares limit 0 count ws = ws.map fun w => (w.1, false) := by
  induction ws generalizing count with
  | nil => rfl
  | cons w ws ih =>
    obtain ⟨w, _ | _⟩ := w
    · rw [takeShares, ih]
      rfl
    · simp only [takeShares, divNearest_zero, Nat.min_zero, Nat.sub_zero, ih]
      rfl

variable {room : Nat} {ws : List (Nat × Bool)}

/-- New widths beside the old marks are the old ones if no width has changed. -/
theorem zip_map_self (f : Nat × Bool → Nat × Bool) (hf : ∀ w, (f w).1 = w.1)
    (ws : List (Nat × Bool)) : ((ws.map f).zip ws).map (fun x => (x.1.1, x.2.2)) = ws := by
  induction ws with
  | nil => rfl
  | cons w ws ih => rw [List.map_cons, List.zip_cons_cons, List.map_cons, ih, hf]

theorem narrowOnce_of_fits (h : (ws.map (·.1)).foldl (· + ·) 0 ≤ room) :
    narrowOnce room ws = ws := by
  have hexcess : (ws.map (·.1)).foldl (· + ·) 0 - room = 0 := Nat.sub_eq_zero_of_le h
  simp only [narrowOnce, hexcess, takeShares_zero, List.map_map]
  apply zip_map_self
  exact fun _ => rfl

/-- Widths that fit into a room stay as they are. -/
theorem narrow_of_fits (h : (ws.map (·.1)).foldl (· + ·) 0 ≤ room) :
    narrow room ws = ws.map (·.1) := by
  have hrepeat (n : Nat) : Nat.repeat (narrowOnce room) n ws = ws := by
    induction n with
    | zero => rfl
    | succ n ih => rw [Nat.repeat, ih, narrowOnce_of_fits h]
  rw [narrow, hrepeat]

variable {columns : List TableColumn} {rows : List (List (List Char))}

theorem cellLength_le_longest {row : List (List Char)} (hrow : row ∈ rows) {i : Nat} {s : List Char}
    (hs : row[i]? = some s) (c : TableColumn) : cellLength s ≤ longest rows i c := by
  have hmem : cellLength s ∈ rows.map fun row => cellLength (row[i]?.getD []) :=
    List.mem_map.mpr ⟨row, hrow, by rw [hs]; rfl⟩
  rw [longest, List.foldl_eq_foldr]
  exact List.le_max_of_le' _ hmem le_rfl

/-- A column that has its room in a table is as wide as its longest cell. -/
theorem widths_of_fits (h : Fits columns rows) :
    widths columns rows = columns.mapIdx fun i c => c.width.getD (longest rows i c) := by
  unfold widths
  apply List.ext_getElem (by simp)
  intro i hi _
  have hcolumn : i < columns.length := by simpa using hi
  rw [List.getElem_mapIdx, List.getElem_mapIdx]
  have hmem : columns[i].width.getD (longest rows i columns[i]) ∈
      columns.mapIdx fun i c => c.width.getD (longest rows i c) :=
    List.mem_mapIdx.mpr ⟨i, hcolumn, rfl⟩
  rw [Fits, ← List.sum_eq_foldl] at h
  have hle := (List.single_le_sum (fun _ _ => Nat.zero_le _) _ hmem).trans h
  cases hw : columns[i].width with
  | some w => rfl
  | none =>
    rw [hw, Option.getD_none] at hle
    rw [Option.getD_none, Option.getD_none]
    exact Nat.min_eq_right (hle.trans (Nat.le_add_right _ _))

theorem infix_cell {width : Nat} {s : List Char} (h : cellLength s ≤ width) (c : TableColumn) :
    s <:+: cell c width s := by
  have hshorten : shorten width s = s := if_pos h
  have hpad : s <:+: if c.alignRight then padLeft width s else pad width s := by
    split
    · exact (List.suffix_append _ s).isInfix
    · exact (List.prefix_append s _).isInfix
  simp only [cell, hshorten]
  exact hpad.trans ⟨[' '], [' '], by simp⟩

theorem mem_intersperse (sep : List Char) {part : List Char} {parts : List (List Char)}
    (h : part ∈ parts) : part ∈ parts.intersperse sep := by
  induction parts with
  | nil => cases h
  | cons p parts ih =>
    cases parts with
    | nil => exact h
    | cons q parts =>
      rw [List.intersperse_cons_cons]
      rcases List.mem_cons.mp h with rfl | h
      · exact List.mem_cons_self
      · exact List.mem_cons_of_mem _ (List.mem_cons_of_mem _ (ih h))

theorem infix_line {part : List Char} {parts : List (List Char)} (h : part ∈ parts)
    (left middle right : Char) : part <:+: line left middle right parts :=
  (List.infix_of_mem_flatten (mem_intersperse [middle] h)).trans ⟨[left], [right], by simp [line]⟩

/-- If there is room for all columns, the cells of columns without a width of their own stand whole
in their rows. -/
theorem exists_infix_laidOut (h : Fits columns rows) {row : List (List Char)} (hrow : row ∈ rows)
    {i : Nat} {c : TableColumn} {s : List Char} (hc : columns[i]? = some c)
    (hwidth : c.width = none) (hs : row[i]? = some s) : ∃ l ∈ laidOut columns rows, s <:+: l := by
  have hcolumns : (widths columns rows).length = columns.length := by simp [widths]
  have hsum :
      (((widths columns rows).zip (columns.map (·.width.isNone))).map (·.1)).foldl (· + ·) 0 ≤
      cellRoom columns.length := by
    rw [List.map_fst_zip (by simp [hcolumns]), widths_of_fits h]
    exact h
  have hnarrow := narrow_of_fits hsum
  rw [List.map_fst_zip (by simp [hcolumns])] at hnarrow
  have hlongest : (widths columns rows)[i]? = some (longest rows i c) := by
    rw [widths_of_fits h, List.getElem?_mapIdx, hc, Option.map_some, hwidth, Option.getD_none]
  have hcell : cell c (longest rows i c) s ∈ cells columns (widths columns rows) row := by
    refine List.mem_map.mpr ⟨(c, longest rows i c, s), ?_, rfl⟩
    apply List.mem_of_getElem? (i := i)
    rw [List.getElem?_zip_eq_some, List.getElem?_zip_eq_some]
    exact ⟨hc, hlongest, hs⟩
  refine ⟨_, ?_,
    (infix_cell (cellLength_le_longest hrow hs c) c).trans (infix_line hcell '│' '│' '│')⟩
  simp only [laidOut, hnarrow]
  apply List.mem_append_left
  apply List.mem_append_right
  exact List.mem_map.mpr ⟨row, hrow, rfl⟩

end Table

end Console

namespace Terminal

theorem exists_shown_of_tags {style : String} (hstyle : style ∈ commandStyles) {closing : List Char}
    (hclosing : closing ∈ [['/'], '/' :: style.toList]) {s : String}
    (htags : tags (pieces s.toList) <+: [style.toList, closing]) :
    ∃ out, StyleTag.shown s = .ok out := by
  obtain ⟨key, hkey⟩ := Style.exists_nameKey_of_mem hstyle
  have hclosed (position : Nat) (ps : List Piece) :
      shownFrom [key] (.tag position closing :: ps) = shownFrom [] ps := by
    simp only [List.mem_cons, List.not_mem_nil, or_false] at hclosing
    rcases hclosing with rfl | rfl
    · exact shownFrom_closing
    · exact shownFrom_closing_named hkey
  rw [exists_shown_iff]
  rcases List.prefix_cons_iff.mp htags with hnone | ⟨rest, hsome, hrest⟩
  · exact exists_shownFrom_nil hnone
  · refine exists_shownFrom_cons hsome fun position ps hps => ?_
    rw [shownFrom_opening hkey (isClosing_of_mem hstyle)]
    rw [← hps] at hrest
    rcases List.prefix_cons_iff.mp hrest with hnone | ⟨rest, hsome, hrest⟩
    · exact exists_shownFrom_nil hnone
    · refine exists_shownFrom_cons hsome fun position ps hps => ?_
      rw [hclosed]
      exact exists_shownFrom_nil (hps.trans (List.prefix_nil.mp hrest))

theorem emoji?_standard : standard.emoji? = namedEmoji? := by rw [standard]

theorem shown_standard : standard.shown = StyleTag.shown := by rw [standard]

theorem readsTags_standard : standard.ReadsTags where
  shows s out h := by
    rw [shown_standard] at h
    rw [emoji?_standard]
    exact eq_visible_of_shownFrom (shown_eq_ok_iff.mp h)
  signless name e h := by
    rw [emoji?_standard] at h
    have hsign := weight_eq_zero_iff.mp (weight_namedEmoji? h)
    exact ⟨fun hc => absurd (hsign _ hc) (by decide), fun hc => absurd (hsign _ hc) (by decide),
      fun hc => absurd (hsign _ hc) (by decide)⟩
  matched style hstyle closing hclosing s htags := by
    rw [shown_standard]
    exact exists_shown_of_tags hstyle hclosing htags
  unmatched s := by
    rintro ⟨before, hb, hlt⟩
    rw [shown_standard]
    cases hs : StyleTag.shown s with
    | error e => exact ⟨e, rfl⟩
    | ok out =>
      have hle := countP_isClosing_le (shown_eq_ok_iff.mp hs) hb
      rw [List.length_nil, Nat.zero_add] at hle
      exact absurd hle (Nat.not_le.mpr hlt)

/-- A tag before a text is not shown, and it need not be closed. -/
theorem shown_opened_standard {style s : String} (hbody : IsBody style.toList)
    (hkey : ∃ key, Style.nameKey (tagName style.toList) = .ok key)
    (hopening : isClosing style.toList = false) (hs : s.toList.all isPlain = true) :
    standard.shown ("[" ++ style ++ "]" ++ s) = .ok s := by
  obtain ⟨key, hkey⟩ := hkey
  have htext : ("[" ++ style ++ "]" ++ s).toList =
      '[' :: (style.toList ++ ']' :: (s.toList ++ [])) := by
    simp
  have h := verbatim_of_all standard hs
  have hcodes := h.codes
  rw [emoji?_standard] at hcodes
  rw [shown_standard, shown_eq_ok_iff, htext, hbody.pieces_eq, shownFrom_opening hkey hopening,
    piecesOnto_append (signWeight_of_all hs), piecesOnto_nil]
  obtain ⟨out, hout⟩ : ∃ out, shownFrom [key] (flush (s.toList.reverse ++ []) []) = .ok out :=
    exists_shownFrom_nil (tags_flush _ [])
  rw [List.replicate_zero, List.nil_append, hout, eq_visible_of_shownFrom hout, visible_flush,
    List.append_nil, List.reverse_reverse, unescape_eq_self h.escapes, withEmoji_eq_self hcodes,
    showable_eq_self_iff.mpr h.visible]
  simp

theorem drawsWhole_standard : standard.DrawsWhole where
  cells columns rows hfits row hrow i c s hc hwidth hs _ := by
    have hcell : (row.map String.toList)[i]? = some s.toList := by
      rw [List.getElem?_map, hs]
      rfl
    exact Table.exists_infix_laidOut hfits (List.mem_map_of_mem hrow) hc hwidth hcell
  titles title subtitle body hword hfits := by
    refine ⟨titledBorder '╭' '╮' title.toList, rfl, ?_⟩
    exact infix_titledBorder _ _ hfits fun c hc => (hword c hc).1

end Terminal

end FencedChat
