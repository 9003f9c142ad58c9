import FencedChat.Proofs.Editor.DiskContents
import FencedChat.Proofs.Screen.Steps
import FencedChat.Proofs.Screen.TextArea
import Mathlib.Logic.Function.Iterate

/-!
The text area and the document are two copies of one text. In every run the area shows some text
that was loaded, and it shows the open document unless a change is still announced.
-/

namespace FencedChat

/-- Which document a document is, whatever it holds: its name and where it is saved. -/
def Document.identity (d : Document) : Option String × Option DiskPath := (d.name, d.path)

namespace Document

variable {d d' : Document} {disk disk' : Disk} {saved : Bool}

/-- What a save does that does not fail: nothing, or it takes the content for the new snapshot, and
writes it if there is a place to write to. -/
theorem save_cases (h : d.save disk = .ok (saved, d', disk')) :
    (d.isDirty = false ∧ d' = d ∧ disk' = disk) ∨
      ∃ b, d = .opened b ∧ d' = .opened { b with snapshot := b.content, dirty := false } ∧
        (b.path = none ∧ disk' = disk ∨ ∃ p,
          b.path = some p ∧ disk.write p b.content = .ok disk') := by
  cases d with
  | closed => contradiction
  | opened b =>
    unfold save at h
    cases hd : b.dirty with
    | false =>
      simp only [hd, Bool.false_eq_true, if_false, Except.ok.injEq, Prod.mk.injEq] at h
      exact .inl ⟨hd, h.2.1.symm, h.2.2.symm⟩
    | true =>
      right
      cases hp : b.path with
      | none =>
        simp only [hd, hp, if_true, Except.ok.injEq, Prod.mk.injEq] at h
        exact ⟨b, rfl, by rw [hp, h.2.1], .inl ⟨hp, h.2.2.symm⟩⟩
      | some p =>
        cases hw : disk.write p b.content with
        | error e => simp [hd, hp, hw] at h
        | ok e =>
          simp only [hd, hp, hw, if_true, Except.ok.injEq, Prod.mk.injEq] at h
          exact ⟨b, rfl, by rw [hp, h.2.1], .inr ⟨p, hp, hw.trans (congrArg _ h.2.2)⟩⟩

end Document

namespace EditorPane

variable {p : EditorPane}

/-- The area was loaded with some text. It shows an open document unless a change is still
announced. -/
structure Sound (p : EditorPane) : Prop where
  loaded : ∃ s, p.area = .ofText s
  follows : p.document.isOpen = true → p.announced = 0 → p.area.text = p.document.content

theorem sound_load (s : String) : (p.load s).Sound :=
  ⟨⟨s, rfl⟩, fun _ h => absurd h (Nat.succ_ne_zero _)⟩

/-- The area is left alone if it shows the document already, and else loaded with it. -/
theorem setDocument_cases (d : Document) :
    p.setDocument d = { p with document := d } ∧ p.area.text = d.content ∨
      p.setDocument d = load { p with document := d } d.content := by
  unfold setDocument refresh
  cases d with
  | closed => exact .inr rfl
  | opened b =>
    dsimp only
    split
    · exact .inl ⟨rfl, ‹_›⟩
    · exact .inr rfl

theorem ofDocument_eq (d : Document) : ofDocument d = setDocument ⟨d, .empty, 0⟩ d := rfl

theorem document_setDocument (d : Document) : (p.setDocument d).document = d := by
  obtain ⟨h, -⟩ | h := setDocument_cases (p := p) d
  · rw [h]
  · rw [h]
    rfl

/-- The area shows a document that was put into the pane, if it gives its text back. -/
theorem text_setDocument {d : Document} (hd : (TextArea.ofText d.content).text = d.content) :
    (p.setDocument d).area.text = d.content := by
  obtain ⟨h, ht⟩ | h := setDocument_cases (p := p) d
  · rwa [h]
  · rw [h]
    exact hd

theorem text_setDocument_of_loaded (hl : ∃ s, p.area = .ofText s) (d : Document) :
    (p.setDocument d).area.text = (TextArea.ofText d.content).text := by
  obtain ⟨h, ht⟩ | h := setDocument_cases (p := p) d
  · obtain ⟨s, hs⟩ := hl
    rw [h, ← ht, hs, TextArea.text_ofText_text]
  · rw [h]
    rfl

theorem sound_setDocument (hl : ∃ s, p.area = .ofText s) (d : Document) :
    (p.setDocument d).Sound := by
  obtain ⟨h, ht⟩ | h := setDocument_cases (p := p) d
  · rw [h]
    exact ⟨hl, fun _ _ => ht⟩
  · rw [h]
    exact sound_load _

theorem sound_ofDocument (d : Document) : (ofDocument d).Sound := by
  rw [ofDocument_eq]
  exact sound_setDocument ⟨"", rfl⟩ d

theorem isOpen_follow : p.follow.isOpen = p.document.isOpen := by
  unfold follow
  split
  · rfl
  · cases p.document <;> rfl

theorem content_follow (ho : p.document.isOpen = true) : p.follow.content = p.area.text := by
  unfold follow
  split
  · exact Eq.symm ‹_›
  · cases hd : p.document with
    | closed => rw [hd] at ho; contradiction
    | opened b => rfl

theorem Sound.handleChange (h : p.Sound) : p.handleChange.Sound := by
  unfold EditorPane.handleChange
  split
  · exact h
  · exact ⟨h.loaded, fun ho _ => (content_follow (isOpen_follow.symm.trans ho)).symm⟩

theorem isOpen_handleChange : p.handleChange.document.isOpen = p.document.isOpen := by
  unfold EditorPane.handleChange
  split
  · rfl
  · exact isOpen_follow

/-- When a change is handled, an open document stays as it is or takes the text of the area. -/
theorem handleChange_opened {b : Buffer} (h : p.document = .opened b) :
    p.handleChange.document = .opened b ∨ p.handleChange.document =
      .opened { b with content := p.area.text, dirty := p.area.text != b.snapshot } := by
  unfold EditorPane.handleChange
  split
  · exact .inl h
  · change p.follow = _ ∨ p.follow = _
    unfold follow
    rw [h]
    split
    · exact .inl rfl
    · exact .inr rfl

theorem identity_handleChange (ho : p.document.isOpen = true) :
    p.handleChange.document.identity = p.document.identity := by
  cases hd : p.document with
  | closed =>
    rw [hd] at ho
    contradiction
  | opened b =>
    obtain h | h := handleChange_opened hd
    · rw [h]
    · rw [h]
      rfl

/-- An open document has the text of the area when a change is handled. -/
theorem Sound.content_handleChange (h : p.Sound) (ho : p.document.isOpen = true) :
    p.handleChange.document.content = p.area.text := by
  unfold EditorPane.handleChange
  split
  · exact (h.follows ho ‹_›).symm
  · exact content_follow ho

theorem insertBlock_closed (h : p.document.isOpen = false) (c : CodeBlock) :
    (p.insertBlock c).1 = p := by
  cases hd : p.document with
  | closed =>
    simp [insertBlock, hd, Document.insertBlock, Document.insert, Insertion.run, Document.active,
      Document.isOpen, Insertion.rejected, InsertionResult.ok]
  | opened b => rw [hd] at h; contradiction

theorem insertBlock_opened {b : Buffer} (h : p.document = .opened b) (c : CodeBlock) :
    (p.insertBlock c).1 = p.setDocument ((Document.opened b).insertBlock c).document := by
  unfold insertBlock
  rw [h]
  rfl

theorem settle_eq_iterate : p.settle = handleChange^[p.announced] p := by
  induction hn : p.announced generalizing p with
  | zero =>
    rw [settle]
    split
    · rfl
    · rename_i m hm
      omega
  | succ n ih =>
    have hp : p.handleChange = { p with document := p.follow, announced := n } := by
      simp [handleChange, hn]
    have hm : p.handleChange.announced = n := by rw [hp]
    rw [Function.iterate_succ_apply, ← ih hm, hp, settle]
    split
    · omega
    · rename_i m hm
      obtain rfl : m = n := by omega
      rfl

theorem announced_iterate (n : Nat) : (handleChange^[n] p).announced = p.announced - n := by
  induction n with
  | zero => rfl
  | succ n ih =>
    rw [Function.iterate_succ_apply']
    unfold handleChange at ih ⊢
    split <;> simp_all <;> omega

/-- What handling a change preserves, handling all of them does. -/
theorem settle_preserves {P : EditorPane → Prop} (step : ∀ q, P q → P q.handleChange) (h : P p) :
    P p.settle := by
  rw [settle_eq_iterate]
  exact Function.Iterate.rec P h step _

theorem announced_settle : p.settle.announced = 0 := by
  rw [settle_eq_iterate, announced_iterate, Nat.sub_self]

theorem area_handleChange : p.handleChange.area = p.area := by
  unfold handleChange
  split <;> rfl

theorem document_handleChange (h : p.area.text = p.document.content) :
    p.handleChange.document = p.document := by
  unfold handleChange
  split
  · rfl
  · exact if_pos h

/-- A document that the area shows stays as it is when the changes are handled. -/
theorem document_settle (h : p.area.text = p.document.content) :
    p.settle.document = p.document := by
  refine (settle_preserves
    (P := fun q => q.area.text = p.document.content ∧ q.document = p.document)
    (fun q hq => ?_) ⟨h, rfl⟩).2
  rw [area_handleChange, document_handleChange (by rw [hq.1, hq.2])]
  exact hq

/-- Once all changes are handled, the document is written with one kind of line end. -/
theorem Sound.oneLineEnd_settle (h : p.Sound) : TextArea.OneLineEnd p.settle.document.content := by
  have hs : p.settle.Sound := settle_preserves (fun _ => Sound.handleChange) h
  cases hd : p.settle.document with
  | closed => exact (TextArea.text_ofText_iff "").mp rfl
  | opened b =>
    have hf := hs.follows (by rw [hd]; rfl) announced_settle
    obtain ⟨s, ha⟩ := hs.loaded
    rw [hd] at hf
    rw [← hf, ha]
    exact TextArea.oneLineEnd_text_ofText s

end EditorPane

namespace App

open EditorPane

/-- The steps after which the area shows what it showed before, unless the document is closed. -/
def Step.LeavesArea : Step → Prop
  | .openFile _ | .edit _ | .handleChange | .addBlock _ => False
  | _ => True

inductive Desk.Moves (k : Desk) : Step → EditorPane → Prop
  | kept {step : Step} : step.LeavesArea → Moves k step k.editor
  | opened {p : DiskPath} {d : Document} : Document.ofFile k.disk p = .ok d →
      Moves k (.openFile p) (k.editor.setDocument d)
  | missed {p : DiskPath} {e : DocumentError} : Document.ofFile k.disk p = .error e →
      Moves k (.openFile p) k.editor
  | typed (t : String) : Moves k (.edit t) (k.editor.edit t)
  | handled : Moves k .handleChange k.editor.handleChange
  | inserted (c : CodeBlock) {b : Buffer} : k.editor.document = .opened b →
      Moves k (.addBlock c) (k.editor.setDocument ((Document.opened b).insertBlock c).document)
  | refused (c : CodeBlock) : k.editor.document = .closed → Moves k (.addBlock c) k.editor
  /-- The content is on the disk then, if the document comes from there. -/
  | saved {b : Buffer} : k.editor.document = .opened b →
      (∀ p, b.path = some p → k.save.disk.read p = .ok (.text b.content)) →
      Moves k .save
        { k.editor with document := .opened { b with snapshot := b.content, dirty := false } }
  | closed : k.editor.document.isDirty = false → Moves k .close (k.editor.setDocument .closed)
  | discarded : Moves k (.answer true) (k.editor.setDocument .closed)

namespace Desk

variable {k : Desk} {step : Step} {q : EditorPane}

theorem moves_openFile (k : Desk) (p : DiskPath) : k.Moves (.openFile p) (k.openFile p).editor := by
  unfold Desk.openFile
  split
  · exact .opened ‹_›
  · exact .missed ‹_›

theorem moves_addBlock (k : Desk) (c : CodeBlock) :
    k.Moves (.addBlock c) (k.editor.insertBlock c).1 := by
  cases hd : k.editor.document with
  | closed =>
    rw [insertBlock_closed (by rw [hd]; rfl)]
    exact .refused c hd
  | opened b =>
    rw [insertBlock_opened hd]
    exact .inserted c hd

theorem moves_save (k : Desk) : k.Moves .save k.save.editor := by
  cases hs : k.editor.document.save k.disk with
  | error e =>
    have hk : k.save = k := by simp only [Desk.save, hs]
    rw [hk]
    exact .kept trivial
  | ok r =>
    obtain ⟨saved, d, disk⟩ := r
    have hk : k.save = { k with editor := { k.editor with document := d }, disk := disk } := by
      simp only [Desk.save, hs]
    obtain ⟨-, rfl, -⟩ | ⟨b, hb, rfl, hw⟩ := Document.save_cases hs
    · rw [hk]
      exact .kept trivial
    · have hr : ∀ p, b.path = some p → k.save.disk.read p = .ok (.text b.content) := by
        intro p hp
        rw [hk]
        obtain ⟨hn, -⟩ | ⟨q, hq, hw⟩ := hw
        · rw [hp] at hn
          contradiction
        · obtain rfl : q = p := Option.some.inj (hq.symm.trans hp)
          exact Disk.read_of_write hw
      have hm := Moves.saved hb hr
      rwa [hk]

theorem moves_close (k : Desk) : k.Moves .close k.close.editor := by
  unfold Desk.close
  split
  · exact .kept trivial
  · split
    · exact .kept trivial
    · exact .closed (by simpa using ‹¬ k.editor.document.isDirty = true›)

theorem moves_answer (k : Desk) (yes : Bool) : k.Moves (.answer yes) (k.answer yes).editor := by
  unfold Desk.answer
  split
  · exact .kept trivial
  · cases yes with
    | true => exact .discarded
    | false => exact .kept trivial

theorem moves (k : Desk) (step : Step) : k.Moves step (k.after step).editor := by
  cases step with
  | session c => exact .kept trivial
  | openFile p => exact moves_openFile k p
  | edit t => exact .typed t
  | handleChange => exact .handled
  | addBlock c => exact moves_addBlock k c
  | save => exact moves_save k
  | close => exact moves_close k
  | answer yes => exact moves_answer k yes
  | disk d => exact .kept trivial

theorem Moves.sound (h : k.Moves step q) (hk : k.editor.Sound) : q.Sound := by
  cases h with
  | kept _ | missed _ | refused _ _ => exact hk
  | typed t => exact sound_load t
  | handled => exact hk.handleChange
  | opened _ | inserted _ _ | closed _ | discarded => exact sound_setDocument hk.loaded _
  | saved hb _ =>
    exact ⟨hk.loaded, fun _ hn => (hk.follows (by rw [hb]; rfl) hn).trans (by rw [hb]; rfl)⟩

/-- Without opening a file, the document that is open stays the same one as long as any is open. -/
theorem Moves.identity (h : k.Moves step q) (hf : ∀ p, step ≠ .openFile p)
    (ho : q.document.isOpen = true) :
    k.editor.document.isOpen = true ∧ q.document.identity = k.editor.document.identity := by
  cases h with
  | kept _ | typed t | refused _ _ => exact ⟨ho, rfl⟩
  | opened _ | missed _ => exact absurd rfl (hf _)
  | handled =>
    have hb := isOpen_handleChange ▸ ho
    exact ⟨hb, identity_handleChange hb⟩
  | inserted c hb =>
    rw [hb, document_setDocument]
    exact ⟨rfl, rfl⟩
  | saved hb _ =>
    rw [hb]
    exact ⟨rfl, rfl⟩
  | closed _ | discarded =>
    rw [document_setDocument] at ho
    contradiction

end Desk

theorem Desk.sound_run {k : Desk} (h : k.editor.Sound) (steps : List Step) :
    (steps.foldl Desk.after k).editor.Sound := by
  induction steps generalizing k with
  | nil => exact h
  | cons step steps ih => exact ih ((k.moves step).sound h)

/-- In every run of a screen the pane is sound. -/
theorem sound_run (session : ChatSession) (disk : Disk) (document : Document)
    (logLevel : Option String) (hasClipboard : Bool) (steps : List Step) :
    ((start session disk document logLevel hasClipboard).run steps).editor.Sound := by
  have hr :=
    Desk.sound_run (k := ⟨.ofDocument document, [], disk⟩) (sound_ofDocument document) steps
  rwa [← desk_start session disk document logLevel hasClipboard, ← desk_run] at hr

end App

end FencedChat
