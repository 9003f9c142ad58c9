import FencedChat.Proofs.Screen.EditorPane

/-!
A screen with two things of its past that it does not keep itself: which documents its questions
were asked about, and what was typed that the document has not followed yet.
-/

namespace FencedChat.App

open EditorPane TextArea

/-- A screen with a trace of its past. -/
structure Traced where
  screen : App
  /-- The documents that the questions are about, each as it was when the question was asked. -/
  asked : List Document
  /-- The text that was typed last, unless the document has followed it or another was shown
  since. -/
  typed : Option String

namespace Traced

def ofScreen (a : App) : Traced := ⟨a, [], none⟩

def after (s : Traced) (step : Step) : Traced where
  screen := s.screen.after step
  asked :=
    match step with
    | .close =>
      if s.screen.editor.document.isDirty then s.screen.editor.document :: s.asked else s.asked
    | .answer _ => s.asked.tail
    | _ => s.asked
  typed :=
    match step with
    | .edit t => some t
    | .handleChange => none
    | .openFile p =>
      match Document.ofFile s.screen.disk p with
      | .ok _ => none
      | .error _ => s.typed
    | .addBlock _ => if s.screen.editor.document.isOpen then none else s.typed
    | _ => s.typed

def run (s : Traced) (steps : List Step) : Traced := steps.foldl after s

variable {s : Traced} {step : Step} {steps : List Step}

theorem desk_after : (s.after step).screen.desk = s.screen.desk.after step := App.desk_after step

theorem run_append (steps more : List Step) : s.run (steps ++ more) = (s.run steps).run more :=
  List.foldl_append

/-- The trace takes no part in what happens. -/
theorem screen_run : (s.run steps).screen = s.screen.run steps := by
  induction steps generalizing s with
  | nil => rfl
  | cons step steps ih => exact ih (s := s.after step)

/-- The area shows what was typed, or else the open document. -/
def Shown (s : Traced) : Prop :=
  s.screen.editor.document.isOpen = true →
    s.screen.editor.area.text = (ofText (s.typed.getD s.screen.editor.document.content)).text

theorem editor_after : (s.after step).screen.editor = (s.screen.desk.after step).editor :=
  congrArg Desk.editor desk_after

theorem typed_after_openFile (p : DiskPath) :
    (s.after (.openFile p)).typed =
      match Document.ofFile s.screen.desk.disk p with
      | .ok _ => none
      | .error _ => s.typed := rfl

theorem typed_after_addBlock (c : CodeBlock) :
    (s.after (.addBlock c)).typed = if s.screen.desk.editor.document.isOpen then none
      else s.typed := rfl

theorem typed_after_of_leavesArea (h : step.LeavesArea) : (s.after step).typed = s.typed := by
  cases step with
  | openFile p | edit t | handleChange | addBlock c => exact h.elim
  | _ => rfl

theorem Shown.after (h : s.Shown) (hs : s.screen.editor.Sound) (step : Step) :
    (s.after step).Shown := by
  have hset : ∀ d, (s.screen.editor.setDocument d).area.text = (ofText d.content).text :=
    text_setDocument_of_loaded hs.loaded
  have hm := s.screen.desk.moves step
  unfold Shown
  rw [editor_after]
  generalize (s.screen.desk.after step).editor = q at hm ⊢
  intro ho
  cases hm with
  | kept hl =>
    rw [typed_after_of_leavesArea hl]
    exact h ho
  | opened hr =>
    rw [typed_after_openFile, hr, document_setDocument]
    exact hset _
  | missed hr =>
    rw [typed_after_openFile, hr]
    exact h ho
  | typed t => rfl
  | handled =>
    obtain ⟨t, ht⟩ := hs.loaded
    change s.screen.editor.handleChange.area.text =
      (ofText s.screen.editor.handleChange.document.content).text
    rw [hs.content_handleChange (isOpen_handleChange ▸ ho), area_handleChange, ht, text_ofText_text]
  | inserted c hb =>
    rw [typed_after_addBlock, hb, document_setDocument]
    exact hset _
  | refused c hc =>
    rw [hc] at ho
    contradiction
  | saved hb hr =>
    have hc : s.screen.editor.document = _ := hb
    have hk := h (by rw [hc]; rfl)
    rwa [hc] at hk
  | closed hd =>
    rw [document_setDocument] at ho
    contradiction
  | discarded =>
    rw [document_setDocument] at ho
    contradiction

theorem Shown.run (h : s.Shown) (hs : s.screen.editor.Sound) (steps : List Step) :
    (s.run steps).Shown := by
  induction steps generalizing s with
  | nil => exact h
  | cons step steps ih =>
    have hq : (s.after step).screen.editor.Sound := by
      rw [editor_after]
      exact (s.screen.desk.moves step).sound hs
    exact ih (h.after hs step) hq

/-- In every run of a screen, the area shows what was typed, or else the open document. -/
theorem shown_run (session : ChatSession) (disk : Disk) (document : Document)
    (logLevel : Option String) (hasClipboard : Bool) (steps : List Step) :
    ((ofScreen (start session disk document logLevel hasClipboard)).run steps).Shown := by
  have he : (ofScreen (start session disk document logLevel hasClipboard)).screen.editor =
      .ofDocument document :=
    congrArg Desk.editor (desk_start session disk document logLevel hasClipboard)
  refine Shown.run (fun _ => ?_) ?_ steps
  · rw [he, ofDocument_eq, document_setDocument]
    exact text_setDocument_of_loaded ⟨"", rfl⟩ document
  · rw [he]
    exact sound_ofDocument document

end Traced

end FencedChat.App
