import FencedChat.Listening
import FencedChat.Screen.App

/-!
What can happen to the screen, in any order: calls of the session, steps of the user, and the
handling of one announced change of the text at a time. The editor, the questions and the disk
follow rules of their own, which the rest of the screen has no part in.
-/

namespace FencedChat.App

/-- What can happen to the screen. -/
inductive Step
  /-- The session changes and the screen shows it. -/
  | session (c : Heard.Call)
  | openFile (p : DiskPath)
  /-- The user replaces the text. -/
  | edit (s : String)
  /-- One announced change of the text is handled. -/
  | handleChange
  | addBlock (b : CodeBlock)
  | save
  | close
  | answer (yes : Bool)
  /-- The files are changed from outside. -/
  | disk (d : Disk)

/-- The screen after a step. A file that cannot be opened changes nothing. -/
def after (a : App) : Step → App
  | .session c => a.follow (c.step a.session)
  | .openFile p =>
    match a.openFile p with
    | .ok a => a
    | .error _ => a
  | .edit s => { a with editor := a.editor.edit s }
  | .handleChange => { a with editor := a.editor.handleChange }
  | .addBlock b => a.addBlock b
  | .save => a.save
  | .close => a.close
  | .answer yes => a.answer yes
  | .disk d => { a with disk := d }

def run (a : App) (steps : List Step) : App := steps.foldl after a

/-- The part of the screen that works on the document. -/
structure Desk where
  editor : EditorPane
  questions : List (Option String)
  disk : Disk

def desk (a : App) : Desk := ⟨a.editor, a.questions, a.disk⟩

namespace Desk

def setDocument (k : Desk) (d : Document) : Desk := { k with editor := k.editor.setDocument d }

def openFile (k : Desk) (p : DiskPath) : Desk :=
  match Document.ofFile k.disk p with
  | .ok d => k.setDocument d
  | .error _ => k

def save (k : Desk) : Desk :=
  match k.editor.document.save k.disk with
  | .ok (_, d, disk) => { k with editor := { k.editor with document := d }, disk := disk }
  | .error _ => k

def close (k : Desk) : Desk :=
  if !k.editor.document.isOpen then k
  else if k.editor.document.isDirty then
    { k with questions := k.editor.document.name :: k.questions }
  else k.setDocument .closed

def answer (k : Desk) (yes : Bool) : Desk :=
  match k.questions with
  | [] => k
  | _ :: rest =>
    let k := { k with questions := rest }
    if yes then k.setDocument .closed else k

/-- The screen after a step. A file that cannot be opened changes nothing. -/
def after (k : Desk) : Step → Desk
  | .session _ => k
  | .openFile p => k.openFile p
  | .edit s => { k with editor := k.editor.edit s }
  | .handleChange => { k with editor := k.editor.handleChange }
  | .addBlock b => { k with editor := (k.editor.insertBlock b).1 }
  | .save => k.save
  | .close => k.close
  | .answer yes => k.answer yes
  | .disk d => { k with disk := d }

end Desk

variable {a : App}

theorem desk_followEvent (e : SessionEvent) : (a.followEvent e).desk = a.desk := by cases e <;> rfl

theorem desk_follow {α : Type} (s : SessionStep α) : (a.follow s).desk = a.desk := by
  have hf : ∀ (es : List SessionEvent) (b : App), (es.foldl followEvent b).desk = b.desk := by
    intro es
    induction es with
    | nil => exact fun _ => rfl
    | cons e es ih => exact fun b => (ih _).trans (desk_followEvent e)
  exact hf s.events _

theorem desk_toasts (ns : List Notice) (a : App) :
    (ns.foldl (fun a n => a.toast (.ofNotice n)) a).desk = a.desk := by
  induction ns generalizing a with
  | nil => rfl
  | cons n ns ih => exact ih _

theorem desk_openFile (p : DiskPath) : (a.after (.openFile p)).desk = a.desk.openFile p := by
  change (match a.openFile p with | .ok b => b | .error _ => a).desk =
    match Document.ofFile a.disk p with | .ok d => a.desk.setDocument d | .error _ => a.desk
  unfold openFile
  cases Document.ofFile a.disk p <;> rfl

theorem desk_save : a.save.desk = a.desk.save := by
  change _ = match a.editor.document.save a.disk with
    | .ok (_, d, disk) => { a.desk with editor := { a.editor with document := d }, disk := disk }
    | .error _ => a.desk
  unfold save
  cases a.editor.document.save a.disk with
  | ok r => rfl
  | error e => cases e <;> rfl

theorem desk_close : a.close.desk = a.desk.close := by
  change _ = if !a.editor.document.isOpen then a.desk
    else if a.editor.document.isDirty then
      { a.desk with questions := a.editor.document.name :: a.questions }
    else a.desk.setDocument .closed
  unfold close
  cases a.editor.document.isOpen <;> cases a.editor.document.isDirty <;> rfl

theorem desk_answer (yes : Bool) : (a.answer yes).desk = a.desk.answer yes := by
  have hq : a.desk.questions = a.questions := rfl
  unfold answer Desk.answer
  rw [hq]
  cases a.questions with
  | nil => rfl
  | cons n rest => cases yes <;> rfl

/-- The desk follows the steps by itself. -/
theorem desk_after (step : Step) : (a.after step).desk = a.desk.after step := by
  cases step with
  | session c => exact desk_follow _
  | openFile p => exact desk_openFile p
  | edit s => rfl
  | handleChange => rfl
  | addBlock b => exact desk_toasts _ _
  | save => exact desk_save
  | close => exact desk_close
  | answer yes => exact desk_answer yes
  | disk d => rfl

theorem desk_run (steps : List Step) : (a.run steps).desk = steps.foldl Desk.after a.desk := by
  induction steps generalizing a with
  | nil => rfl
  | cons step steps ih => exact (ih (a := a.after step)).trans (by rw [desk_after]; rfl)

/-- A desk that is opened on a document. -/
theorem desk_start (session : ChatSession) (disk : Disk) (document : Document)
    (logLevel : Option String) (hasClipboard : Bool) :
    (start session disk document logLevel hasClipboard).desk =
      ⟨.ofDocument document, [], disk⟩ := by
  have hm : ∀ (ms : List ChatMessage) (b : App), (ms.foldl showMessage b).desk = b.desk := by
    intro ms
    induction ms with
    | nil => exact fun _ => rfl
    | cons m ms ih => exact fun b => ih _
  exact (desk_follow _).trans (hm _ _)

end FencedChat.App
