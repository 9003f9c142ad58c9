import FencedChat.Proofs.Screen.Typing
import Mathlib.Tactic.TFAE

/-!
Showing a document. Loading a text announces a change like typing does, and the document then
follows what the area gives back. So documents that are only shown stay as they are exactly if their
texts are such that the area gives them back.
-/

namespace FencedChat.App

open EditorPane TextArea

/-- Files are opened and blocks inserted. Nothing is typed, saved or closed. -/
def Step.IsShowing : Step → Prop
  | .edit _ | .save | .close | .answer _ => False
  | _ => True

def Step.onDocument (s : Document × Disk) : Step → Document × Disk
  | .openFile p => ((Document.ofFile s.2 p).toOption.getD s.1, s.2)
  | .addBlock b => ((s.1.insertBlock b).document, s.2)
  | .disk d => (s.1, d)
  | _ => s

def edited (document : Document) (disk : Disk) (steps : List Step) : Document :=
  (steps.foldl Step.onDocument (document, disk)).1

/-- The editor holds a document and shows it. -/
structure Desk.Shows (k : Desk) (s : Document × Disk) : Prop where
  document : k.editor.document = s.1
  disk : k.disk = s.2
  text : k.editor.area.text = s.1.content

variable {k : Desk} {s : Document × Disk}

theorem Desk.shows_setDocument (hd : k.disk = s.2) (hu : OneLineEnd s.1.content) :
    (k.setDocument s.1).Shows s where
  document := document_setDocument _
  disk := hd
  text := text_setDocument ((text_ofText_iff _).mpr hu)

theorem Desk.Shows.after (h : k.Shows s) {step : Step} (hs : step.IsShowing)
    (hu : OneLineEnd (step.onDocument s).1.content) : (k.after step).Shows (step.onDocument s) := by
  cases step with
  | session c => exact h
  | openFile p =>
    simp only [Desk.after, Desk.openFile, Step.onDocument, h.disk] at hu ⊢
    cases hf : Document.ofFile s.2 p with
    | ok d =>
      rw [hf] at hu
      exact Desk.shows_setDocument (s := (d, s.2)) h.disk hu
    | error e => exact h
  | edit t => exact hs.elim
  | handleChange =>
    have hc : k.editor.area.text = k.editor.document.content := h.text.trans (by rw [h.document])
    exact ⟨(document_handleChange hc).trans h.document, h.disk,
      (congrArg _ area_handleChange).trans h.text⟩
  | addBlock c =>
    obtain ⟨d, disk⟩ := s
    obtain ⟨hd, hk, ht⟩ := h
    cases d with
    | closed =>
      have hi := insertBlock_closed (p := k.editor) (by rw [hd]; rfl) c
      exact ⟨(congrArg _ hi).trans hd, hk, (congrArg _ (congrArg _ hi)).trans ht⟩
    | opened b =>
      have hi := insertBlock_opened hd c
      have hw :=
        Desk.shows_setDocument (k := k) (s := (((Document.opened b).insertBlock c).document, disk))
          hk hu
      exact ⟨(congrArg _ hi).trans hw.document, hk, (congrArg _ (congrArg _ hi)).trans hw.text⟩
  | save => exact hs.elim
  | close => exact hs.elim
  | answer yes => exact hs.elim
  | disk d => exact ⟨h.document, rfl, h.text⟩

theorem Desk.Shows.run {steps : List Step} (h : k.Shows s) (hs : ∀ step ∈ steps, step.IsShowing)
    (hu : ∀ l, l <+: steps → OneLineEnd (l.foldl Step.onDocument s).1.content) :
    (steps.foldl Desk.after k).Shows (steps.foldl Step.onDocument s) := by
  induction steps generalizing k s with
  | nil => exact h
  | cons step steps ih =>
    rw [List.forall_mem_cons] at hs
    have hstep : (k.after step).Shows (step.onDocument s) := h.after hs.1 (hu [step] (by simp))
    exact ih hstep hs.2 fun l hl => hu (step :: l) (List.cons_prefix_cons.mpr ⟨rfl, hl⟩)

/-- While files are opened and blocks inserted, the document is what the opens and insertions make
of it, whatever announced changes are handled in between, exactly if each text on the way is written
with one kind of line end. Otherwise it differs once all changes are handled. -/
theorem showing_keeps_document (session : ChatSession) (disk : Disk) (document : Document)
    (logLevel : Option String) (hasClipboard : Bool) {steps : List Step}
    (hs : ∀ step ∈ steps, step.IsShowing) :
    let a := start session disk document logLevel hasClipboard
    List.TFAE
      [∀ l, l <+: steps → OneLineEnd (edited document disk l).content,
        ∀ l, l <+: steps → (a.run l).editor.document = edited document disk l ∧
          (a.run l).settle.editor.document = edited document disk l,
        ∀ l, l <+: steps →
          (a.run l).settle.editor.document.content = (edited document disk l).content] := by
  intro a
  tfae_have 1 → 2 := by
    intro hu l hl
    have hstart : a.desk.Shows (document, disk) := by
      rw [desk_start]
      exact Desk.shows_setDocument (k := ⟨⟨document, .empty, 0⟩, [], disk⟩)
        (s := (document, disk)) rfl
        (hu [] List.nil_prefix)
    have hrun : (a.run l).desk.Shows (l.foldl Step.onDocument (document, disk)) := by
      rw [desk_run]
      exact hstart.run (fun step h => hs step (hl.subset h)) fun m hm => hu m (hm.trans hl)
    have hd : (a.run l).editor.document = edited document disk l := hrun.document
    have ht : (a.run l).editor.area.text = (a.run l).editor.document.content :=
      hrun.text.trans (by rw [hd]; rfl)
    exact ⟨hd, (document_settle ht).trans hd⟩
  tfae_have 2 → 3 := fun h l hl => congrArg Document.content (h l hl).2
  tfae_have 3 → 1 := by
    intro h l hl
    rw [← h l hl]
    exact (sound_run session disk document logLevel hasClipboard l).oneLineEnd_settle
  tfae_finish

def diskOf (content : String) : Disk := ⟨[], [(["a.txt"], .file (.text content))]⟩

/-- A screen on a disk. No document is open. -/
def onDisk (d : Disk) : App := start (.start none none) d .closed none false

theorem showing_keeps_document_newlines :
    let steps := [.openFile ⟨"", ["a.txt"]⟩, .handleChange, .addBlock (block "x")]
    let b : Document := .opened ⟨"a.txt", some ⟨"", ["a.txt"]⟩, "a\nb\n\n\nx", "a\nb\n", true⟩
    ((onDisk (diskOf "a\nb\n")).run steps).editor.document = b ∧
      ((onDisk (diskOf "a\nb\n")).run steps).settle.editor.document = b := by
  intro steps b
  have hs : ∀ step ∈ steps, step.IsShowing := by simp [steps, Step.IsShowing]
  have hu : ∀ l ∈ steps.inits, OneLineEnd (edited .closed (diskOf "a\nb\n") l).content := by decide
  have hk :=
    (showing_keeps_document (.start none none) (diskOf "a\nb\n") .closed none false hs).out 0 1
  exact hk.mp (fun l hl => hu l (List.mem_inits l steps |>.mpr hl)) steps (List.prefix_refl _)

/-- A form feed in a file, and the line ends of a text into which a block with others is inserted,
are rewritten without a key being pressed. The file is then taken for modified. -/
theorem showing_rewrites_lineEnds :
    let opening := [.openFile ⟨"", ["a.txt"]⟩]
    let inserting := opening ++ [.addBlock (block "x\r\ny")]
    edited .closed (diskOf "a\x0cb") opening =
        .opened ⟨"a.txt", some ⟨"", ["a.txt"]⟩, "a\x0cb", "a\x0cb", false⟩ ∧
      ((onDisk (diskOf "a\x0cb")).run opening).settle.editor.document =
        .opened ⟨"a.txt", some ⟨"", ["a.txt"]⟩, "a\nb", "a\x0cb", true⟩ ∧
      (edited .closed (diskOf "a") inserting).content = "a\n\nx\r\ny" ∧
      ((onDisk (diskOf "a")).run inserting).settle.editor.document.content = "a\r\n\r\nx\r\ny" := by
  have he : ∀ a : App, a.settle.editor = handleChange^[a.editor.announced] a.editor :=
    fun _ => settle_eq_iterate
  simp only [he]
  decide

end FencedChat.App
