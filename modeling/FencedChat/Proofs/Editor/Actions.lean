import FencedChat.Editor.Editing
import FencedChat.Proofs.Action

/-!
What each action on the document does as a whole: the state that it leaves, and whether it fails.
-/

namespace FencedChat

namespace DocumentFields

def withContent (d : DocumentFields) (s : String) : DocumentFields :=
  { d with content := s, dirty := s != d.snapshot }

def saved (d : DocumentFields) : DocumentFields := { d with snapshot := d.content, dirty := false }

def appended (d : DocumentFields) (code : String) : DocumentFields :=
  d.withContent (d.content ++ Insertion.separator ++ code)

end DocumentFields

namespace Editing.Action

variable {α : Type} (s : Editing) (system : FileSystem)

@[simp] theorem run_document : document.run s = .ok s.document s := rfl

@[simp] theorem run_ofSystem (p : DiskPath) (r : Except DiskError α) :
    (ofSystem p r).run s =
      match r with
      | .ok a => .ok a s
      | .error e => .error (.onDisk e p) s := by
  cases r <;> rfl

@[simp] theorem run_requireOpen (operation : String) :
    (requireOpen operation).run s =
      if s.document.isOpen then .ok () s else .error (.notOpen operation) s := by
  cases h : s.document.isOpen <;> simp [requireOpen, h]

@[simp] theorem run_load (name content : String) (path : Option DiskPath) :
    (load name content path).run s =
      .ok () { s with document := ⟨some name, path, content, content, false⟩ } := rfl

@[simp] theorem run_close : close.run s = .ok () { s with document := .closed } := rfl

@[simp] theorem run_readText (p : DiskPath) :
    (readText system p).run s =
      match system.read p s.disk with
      | .error e => .error (.onDisk e p) s
      | .ok (.bytes _) => .error (.notText p) s
      | .ok (.text t) => .ok (plainNewlines t) s := by
  cases h : system.read p s.disk with
  | error e => simp [readText, h]
  | ok c => cases c <;> simp [readText, h]

theorem run_loadFile (p : DiskPath) :
    (loadFile system p).run s =
      match system.isFile p s.disk with
      | .error e => .error (.onDisk e p) s
      | .ok false => .error (.notFound p) s
      | .ok true =>
        match system.read p s.disk with
        | .error e => .error (.onDisk e p) s
        | .ok (.bytes _) => .error (.notText p) s
        | .ok (.text t) =>
          .ok () { s with
            document := ⟨some p.name, some p, plainNewlines t, plainNewlines t, false⟩ } := by
  cases hf : system.isFile p s.disk with
  | error e => simp [loadFile, hf]
  | ok found =>
    cases found with
    | false => simp [loadFile, hf]
    | true =>
      cases hr : system.read p s.disk with
      | error e => simp [loadFile, hf, hr]
      | ok c => cases c <;> simp [loadFile, hf, hr]

@[simp] theorem run_content :
    content.run s =
      if s.document.isOpen then .ok s.document.content s
        else .error (.notOpen "get_content") s := by
  cases h : s.document.isOpen <;> simp [content, h]

@[simp] theorem run_setContent (t : String) :
    (setContent t).run s =
      if s.document.isOpen then .ok () { s with document := s.document.withContent t }
      else .error (.notOpen "set_content") s := by
  cases h : s.document.isOpen <;>
    simp [setContent, setText, setDirty, DocumentFields.withContent, h]

@[simp] theorem run_writeText (p : DiskPath) (t : String) :
    (writeText system p t).run s =
      match system.write p t s.disk with
      | .ok _ disk => .ok () { s with disk := disk }
      | .error e disk => .error (.onDisk e p) { s with disk := disk } := rfl

theorem run_save :
    (save system).run s =
      if s.document.isOpen then
        if s.document.dirty then
          match s.document.path with
          | none => .ok true { s with document := s.document.saved }
          | some p =>
            match system.write p s.document.content s.disk with
            | .ok _ disk => .ok true { s with document := s.document.saved, disk := disk }
            | .error e disk => .error (.onDisk e p) { s with disk := disk }
        else .ok false s
      else .error (.notOpen "save") s := by
  cases ho : s.document.isOpen with
  | false => simp [save, ho]
  | true =>
    cases hd : s.document.dirty with
    | false => simp [save, ho, hd]
    | true =>
      cases hp : s.document.path with
      | none => simp [save, setSnapshot, setDirty, DocumentFields.saved, ho, hd, hp]
      | some p =>
        cases hw : system.write p s.document.content s.disk <;>
          simp [save, setSnapshot, setDirty, DocumentFields.saved, ho, hd, hp, hw]

@[simp] theorem run_append (code : String) :
    (append code).run s =
      if s.document.isOpen then .ok true { s with document := s.document.appended code }
      else .ok false s := by
  unfold append
  rw [Action.run_tryCatch]
  cases h : s.document.isOpen <;> simp [DocumentFields.appended, h]

@[simp] theorem run_report (i : Insertion Unit) :
    (report i).run s =
      .ok i.result { s with notices := s.notices ++ i.notices, log := s.log ++ i.log } := rfl

theorem run_insert (code label : String) :
    (insert code label).run s =
      if s.document.isOpen then
        let i := Insertion.accepted () s.document.name code label
        .ok i.result { s with
          document := s.document.appended code
          notices := s.notices ++ i.notices
          log := s.log ++ i.log }
      else
        let i := Insertion.rejected () label
        .ok i.result { s with notices := s.notices ++ i.notices, log := s.log ++ i.log } := by
  cases h : s.document.isOpen <;>
    simp [insert, DocumentFields.appended, DocumentFields.withContent, h]

end Editing.Action

end FencedChat
