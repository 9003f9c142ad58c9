import FencedChat.Proofs.Editor.Actions

/-!
Runs of calls on the document, of which any may fail. The dirty flag tells at every moment whether
the content differs from the snapshot, a closed document holds nothing, and a call that fails leaves
the document as it was.
-/

namespace FencedChat

/-- The flag agrees with the texts, and a document that is not open holds nothing. -/
structure DocumentFields.Consistent (d : DocumentFields) : Prop where
  dirty_iff : d.dirty = true ↔ d.content ≠ d.snapshot
  closed : d.isOpen = false → d = .closed

namespace DocumentFields

variable {d : DocumentFields}

theorem Consistent.content_eq (h : d.Consistent) (hd : d.dirty = false) :
    d.content = d.snapshot := by
  by_cases hc : d.content = d.snapshot
  · exact hc
  · simp [h.dirty_iff.mpr hc] at hd

theorem consistent_closed : Consistent .closed := ⟨by simp [closed], fun _ => rfl⟩

theorem consistent_loaded (name content : String) (path : Option DiskPath) :
    Consistent ⟨some name, path, content, content, false⟩ := ⟨by simp, by simp [isOpen]⟩

theorem consistent_withContent (h : d.isOpen = true) (s : String) :
    (d.withContent s).Consistent where
  dirty_iff := bne_iff_ne
  closed hc := by
    have ho : (d.withContent s).isOpen = true := h
    simp [ho] at hc

theorem consistent_saved (h : d.isOpen = true) : d.saved.Consistent where
  dirty_iff := by simp [saved]
  closed hc := by
    have ho : d.saved.isOpen = true := h
    simp [ho] at hc

end DocumentFields

namespace Editing

inductive Call
  | load (name content : String) (path : Option DiskPath)
  | loadFile (path : DiskPath)
  | setContent (content : String)
  | save
  | close
  | insert (code label : String)

def Call.action (system : FileSystem) : Call → Action Unit
  | load name content path => .load name content path
  | loadFile path => .loadFile system path
  | setContent content => .setContent content
  | save => discard (Action.save system)
  | close => .close
  | insert code label => discard (Action.insert code label)

def after (s : Editing) (system : FileSystem) (c : Call) : Editing :=
  match (c.action system).run s with
  | .ok _ t => t
  | .error _ t => t

/-- Calls one after the other. The system may behave differently at each of them. -/
def run (s : Editing) (calls : List (FileSystem × Call)) : Editing :=
  calls.foldl (fun s c => s.after c.1 c.2) s

/-- An action that keeps the document consistent, and leaves it as it was when it fails. -/
def Keeps {α : Type} (a : Action α) : Prop :=
  ∀ s, match a.run s with
    | .ok _ t => s.document.Consistent → t.document.Consistent
    | .error _ t => t.document = s.document

theorem Keeps.discard {α : Type} {a : Action α} (h : Keeps a) : Keeps (discard a) := by
  intro s
  have hs := h s
  rw [Action.run_discard]
  cases hr : a.run s <;> simpa [hr] using hs

namespace Action

variable (system : FileSystem)

theorem keeps_load (name content : String) (path : Option DiskPath) :
    Keeps (load name content path) :=
  fun _ _ => DocumentFields.consistent_loaded name content path

theorem keeps_close : Keeps close := fun _ _ => DocumentFields.consistent_closed

theorem keeps_loadFile (p : DiskPath) : Keeps (loadFile system p) := by
  intro s
  rw [run_loadFile]
  cases system.isFile p s.disk with
  | error e => rfl
  | ok found =>
    cases found with
    | false => rfl
    | true =>
      cases system.read p s.disk with
      | error e => rfl
      | ok c =>
        cases c with
        | bytes bs => rfl
        | text t => exact fun _ => DocumentFields.consistent_loaded _ _ _

theorem keeps_setContent (t : String) : Keeps (setContent t) := by
  intro s
  rw [run_setContent]
  cases ho : s.document.isOpen with
  | false => rfl
  | true => exact fun _ => DocumentFields.consistent_withContent ho t

theorem keeps_save : Keeps (save system) := by
  intro s
  rw [run_save]
  cases ho : s.document.isOpen with
  | false => rfl
  | true =>
    cases s.document.dirty with
    | false => exact id
    | true =>
      cases s.document.path with
      | none => exact fun _ => DocumentFields.consistent_saved ho
      | some p =>
        simp only [if_true]
        cases system.write p s.document.content s.disk with
        | ok _ disk => exact fun _ => DocumentFields.consistent_saved ho
        | error e disk => rfl

theorem keeps_insert (code label : String) : Keeps (insert code label) := by
  intro s
  rw [run_insert]
  cases ho : s.document.isOpen with
  | false => exact id
  | true => exact fun _ => DocumentFields.consistent_withContent ho _

theorem keeps_action (c : Call) : Keeps (c.action system) := by
  cases c with
  | load name content path => exact keeps_load name content path
  | loadFile path => exact keeps_loadFile system path
  | setContent content => exact keeps_setContent content
  | save => exact Keeps.discard (keeps_save system)
  | close => exact keeps_close
  | insert code label => exact Keeps.discard (keeps_insert code label)

end Action

variable {s : Editing}

theorem consistent_after (h : s.document.Consistent) (system : FileSystem) (c : Call) :
    (s.after system c).document.Consistent := by
  have hk := Action.keeps_action system c s
  unfold after
  cases hr : (c.action system).run s with
  | ok _ t =>
    rw [hr] at hk
    exact hk h
  | error e t =>
    rw [hr] at hk
    exact hk ▸ h

theorem consistent_run (h : s.document.Consistent) (calls : List (FileSystem × Call)) :
    (s.run calls).document.Consistent := by
  induction calls generalizing s with
  | nil => exact h
  | cons c calls ih => exact ih (consistent_after h c.1 c.2)

/-- After any calls, failed ones among them, the flag tells whether the content differs from the
snapshot, and a document that is not open holds nothing. A call that fails then leaves the document
as it is. -/
theorem run_dirty_iff (disk : Disk) (calls : List (FileSystem × Call)) :
    let s := (start disk).run calls
    (s.document.dirty = true ↔ s.document.content ≠ s.document.snapshot) ∧
      (s.document.isOpen = false → s.document = ⟨none, none, "", "", false⟩) ∧
      ∀ (system : FileSystem) (c : Call) (e : DocumentError) (t : Editing),
        (c.action system).run s = .error e t → t.document = s.document := by
  intro s
  have hs : s.document.Consistent := consistent_run DocumentFields.consistent_closed calls
  refine ⟨hs.dirty_iff, hs.closed, ?_⟩
  intro system c e t hr
  have hk := Action.keeps_action system c s
  rwa [hr] at hk

/-- Calls that fail on a closed document and on a missing file, and then a document of a directory
that is changed. -/
def troubled : Editing :=
  (start .empty).run [(.usual, .setContent "a"), (.usual, .loadFile ⟨"", ["b"]⟩),
    (.usual, .load "c" "d" (some ⟨"", []⟩)), (.usual, .insert "e" "f")]

/-- The directory cannot be written. -/
theorem troubled_document :
    (troubled.document.dirty = true ↔ troubled.document.content ≠ troubled.document.snapshot) ∧
    troubled.document = ⟨some "c", some ⟨"", []⟩, "d\n\ne", "d", true⟩ ∧
    ∃ t, (Call.save.action .usual).run troubled = .error (.onDisk .isADirectory ⟨"", []⟩) t ∧
      t.document = troubled.document := by
  have h := run_dirty_iff .empty [(.usual, .setContent "a"), (.usual, .loadFile ⟨"", ["b"]⟩),
    (.usual, .load "c" "d" (some ⟨"", []⟩)), (.usual, .insert "e" "f")]
  refine ⟨h.1, by decide, _, rfl, h.2.2 .usual .save _ _ rfl⟩

end Editing

end FencedChat
