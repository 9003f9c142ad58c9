import FencedChat.Message.Reader
import FencedChat.Proofs.Editor.Runs

/-!
Insertions one after the other. Every code goes behind the content, in order, and nothing of the
document but the content and the dirty flag changes.
-/

namespace FencedChat

def Insertion.joined (codes : List String) : String := String.join (codes.map (separator ++ ·))

theorem Insertion.length_joined_pos {codes : List String} (h : codes ≠ []) :
    0 < (joined codes).length := by
  obtain ⟨code, rest, rfl⟩ := List.exists_cons_of_ne_nil h
  have hs : separator.length = 2 := rfl
  simp only [joined, List.map_cons, String.join_cons, String.length_append, hs]
  omega

namespace DocumentFields

variable (d : DocumentFields)

def appendedAll (codes : List String) : DocumentFields := codes.foldl appended d

@[simp] theorem name_appended (code : String) : (d.appended code).name = d.name := rfl

@[simp] theorem isOpen_appended (code : String) : (d.appended code).isOpen = d.isOpen := rfl

@[simp] theorem appendedAll_nil : d.appendedAll [] = d := rfl

@[simp] theorem appendedAll_cons (code : String) (codes : List String) :
    d.appendedAll (code :: codes) = (d.appended code).appendedAll codes := rfl

theorem appendedAll_eq_withContent {codes : List String} (h : codes ≠ []) :
    d.appendedAll codes = d.withContent (d.content ++ Insertion.joined codes) := by
  induction codes generalizing d with
  | nil => exact absurd rfl h
  | cons code codes ih =>
    have hj : Insertion.joined (code :: codes) =
        Insertion.separator ++ code ++ Insertion.joined codes := by
      simp [Insertion.joined]
    cases codes with
    | nil => simp [appended, Insertion.joined, String.append_assoc]
    | cons c codes =>
      calc d.appendedAll (code :: c :: codes)
        _ = (d.appended code).appendedAll (c :: codes) := d.appendedAll_cons code (c :: codes)
        _ = (d.appended code).withContent
          ((d.appended code).content ++ Insertion.joined (c :: codes)) :=
          ih (d.appended code) (by simp)
        _ = d.withContent
          (d.content ++ Insertion.separator ++ code ++ Insertion.joined (c :: codes)) :=
          rfl
        _ = d.withContent (d.content ++ Insertion.joined (code :: c :: codes)) := by
          rw [hj]
          simp only [String.append_assoc]

theorem content_appendedAll (codes : List String) :
    (d.appendedAll codes).content = d.content ++ Insertion.joined codes := by
  cases codes with
  | nil => simp [Insertion.joined]
  | cons code codes =>
    rw [appendedAll_eq_withContent d (by simp)]
    rfl

/-- The document is still the same one. -/
theorem appendedAll_same (codes : List String) :
    (d.appendedAll codes).name = d.name ∧ (d.appendedAll codes).path = d.path ∧
      (d.appendedAll codes).snapshot = d.snapshot := by
  cases codes with
  | nil => exact ⟨rfl, rfl, rfl⟩
  | cons code codes =>
    rw [appendedAll_eq_withContent d (by simp)]
    exact ⟨rfl, rfl, rfl⟩

/-- Behind a content that is the snapshot, codes make a difference. -/
theorem dirty_appendedAll {codes : List String} (hs : d.content = d.snapshot) (h : codes ≠ []) :
    (d.appendedAll codes).dirty = true := by
  have hl := Insertion.length_joined_pos h
  rw [appendedAll_eq_withContent d h, withContent, bne_iff_ne, hs]
  intro he
  have := congrArg String.length he
  rw [String.length_append] at this
  omega

end DocumentFields

namespace Editing

namespace Action

def insertAll : List (String × String) → Action (List InsertionResult)
  | [] => return []
  | x :: xs => return (← insert x.1 x.2) :: (← insertAll xs)

theorem insertBlocks_eq_insertAll (bs : List CodeBlock) :
    insertBlocks bs = insertAll (bs.map fun b => (b.code, b.filename)) := by
  induction bs with
  | nil => rfl
  | cons b bs ih =>
    rw [insertBlocks, ih]
    rfl

variable {s : Editing}

theorem run_insertAll_of_isOpen (h : s.document.isOpen = true) (xs : List (String × String)) :
    (insertAll xs).run s =
      let i (x : String × String) := Insertion.accepted () s.document.name x.1 x.2
      .ok (xs.map fun x => (i x).result) { s with
        document := s.document.appendedAll (xs.map Prod.fst)
        notices := s.notices ++ xs.flatMap fun x => (i x).notices
        log := s.log ++ xs.flatMap fun x => (i x).log } := by
  induction xs generalizing s with
  | nil => simp [insertAll]
  | cons x xs ih => simp [insertAll, run_insert, h, ih]

theorem run_insertAll_of_not_isOpen (h : s.document.isOpen = false) (xs : List (String × String)) :
    (insertAll xs).run s =
      let i (x : String × String) := Insertion.rejected () x.2
      .ok (xs.map fun x => (i x).result) { s with
        notices := s.notices ++ xs.flatMap fun x => (i x).notices
        log := s.log ++ xs.flatMap fun x => (i x).log } := by
  induction xs generalizing s with
  | nil => simp [insertAll]
  | cons x xs ih => simp [insertAll, run_insert, h, ih]

end Action

/-- The blocks of a message go behind the content of an open document, in order, and each is
acknowledged by its filename. A closed document refuses each of them. No file changes. -/
theorem run_insertBlocks_message (disk : Disk) (calls : List (FileSystem × Call))
    (r : MessageReader) (text : String) :
    let s := (start disk).run calls
    let bs := r.blocks text
    ∃ results t, (Action.insertBlocks bs).run s = .ok results t ∧ t.disk = s.disk ∧
      if s.document.isOpen then
        t.document.content = s.document.content ++ String.join (bs.map fun b => "\n\n" ++ b.code) ∧
        t.document.snapshot = s.document.snapshot ∧
        t.document.name = s.document.name ∧
        t.document.path = s.document.path ∧
        t.notices = s.notices ++ bs.map (fun b => ⟨.success,
          "Code from " ++ b.filename ++ " added to current file. Don't forget to save!"⟩) ∧
        results.map InsertionResult.status = List.replicate bs.length .inserted ∧
        (s.document.dirty = false → bs ≠ [] → t.document.dirty = true)
      else
        t.document = s.document ∧
        t.notices = s.notices ++ List.replicate bs.length ⟨.error, Fault.noActiveDocumentText⟩ ∧
        results.map InsertionResult.status = List.replicate bs.length .noActiveDocument := by
  intro s bs
  rw [Action.insertBlocks_eq_insertAll]
  cases ho : s.document.isOpen with
  | false =>
    rw [Action.run_insertAll_of_not_isOpen ho]
    refine ⟨_, _, rfl, rfl, rfl, ?_, ?_⟩
    · simp [Insertion.rejected, List.flatMap_map, ← List.map_eq_flatMap, List.map_const']
    · simp [Insertion.rejected, Function.comp_def, List.map_const']
  | true =>
    have hs : s.document.Consistent := consistent_run DocumentFields.consistent_closed calls
    rw [Action.run_insertAll_of_isOpen ho]
    have hcodes : (bs.map fun b => (b.code, b.filename)).map Prod.fst = bs.map CodeBlock.code := by
      simp
    obtain ⟨hname, hpath, hsnapshot⟩ := s.document.appendedAll_same (bs.map CodeBlock.code)
    refine ⟨_, _, rfl, rfl, ?_⟩
    simp only [if_true, hcodes]
    refine ⟨?_, hsnapshot, hname, hpath, ?_, ?_, ?_⟩
    · simp [DocumentFields.content_appendedAll, Insertion.joined, Insertion.separator,
        Function.comp_def]
    · simp [Insertion.accepted, List.flatMap_map, ← List.map_eq_flatMap]
    · simp [Insertion.accepted, Function.comp_def, List.map_const']
    · intro hd hb
      exact s.document.dirty_appendedAll (hs.content_eq hd) (by simpa using hb)

def repeated : String := "a\n```py\nb\n```\n```py\nb\n```"

def unhighlighted : MessageReader := ⟨⟨.empty, 0⟩, .standard⟩

theorem blocks_repeated :
    unhighlighted.blocks repeated = List.replicate 2 ⟨some "py", none, "b", "py", "py.py"⟩ := by
  decide +kernel

theorem run_insertBlocks_repeated :
    ∃ results t, (Action.insertBlocks (unhighlighted.blocks repeated)).run
        ((start .empty).run [(.usual, .load "c.py" "" none)]) = .ok results t ∧
      t.document.content = "\n\nb\n\nb" ∧ t.document.dirty = true ∧
      t.notices = List.replicate 2
        ⟨.success, "Code from py.py added to current file. Don't forget to save!"⟩ := by
  obtain ⟨results, t, hr, _, hc, _, _, _, hn, _, hd⟩ :=
    run_insertBlocks_message .empty [(.usual, .load "c.py" "" none)] unhighlighted repeated
  rw [blocks_repeated] at hc hn hd
  exact ⟨results, t, hr, by rw [hc]; decide, hd rfl (by simp), by rw [hn]; decide⟩

end Editing

end FencedChat
