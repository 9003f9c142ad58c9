import FencedChat.Proofs.Editor.Runs

/-!
The two forms of the document. On the usual system, every action on the fields is the operation on a
closed or open document: it gives the same result and fails alike, and the fields that it leaves are
those of the document that the operation gives.
-/

namespace FencedChat

/-- Fields that calls can lead to are those of a document. -/
theorem DocumentFields.Consistent.exists_document {f : DocumentFields} (h : f.Consistent) :
    ∃ d : Document, f = d.fields := by
  cases ho : f.isOpen with
  | false => exact ⟨.closed, h.closed ho⟩
  | true =>
    obtain ⟨name, path, content, snapshot, dirty⟩ := f
    obtain ⟨name, rfl⟩ := Option.isSome_iff_exists.mp ho
    exact ⟨.opened ⟨name, path, content, snapshot, dirty⟩, rfl⟩

namespace Editing.Action

def settled (s : Editing) :
    Except DocumentError Document → EStateM.Result DocumentError Editing Unit
  | .ok d => .ok () { s with document := d.fields }
  | .error e => .error e s

variable {s : Editing} {d : Document}

theorem run_load_eq_settled (name content : String) (path : Option DiskPath) :
    (load name content path).run s = settled s (.ok (.ofContent name content path)) := rfl

theorem run_close_eq_settled : close.run s = settled s (.ok .closed) := rfl

theorem run_loadFile_usual (p : DiskPath) :
    (loadFile .usual p).run s = settled s (Document.ofFile s.disk p) := by
  rw [run_loadFile]
  unfold FileSystem.usual Document.ofFile
  cases h : s.disk.read p with
  | ok c =>
    cases c <;> simp [settled, h, Document.ofFileContent, Document.ofContent, Document.fields]
  | error e => cases e <;> simp [settled, h]

theorem run_content_fields (h : s.document = d.fields) :
    content.run s =
      match d.content? with
      | .ok t => .ok t s
      | .error e => .error e s := by
  rw [run_content, h]
  cases d <;> rfl

theorem run_setContent_fields (h : s.document = d.fields) (t : String) :
    (setContent t).run s = settled s (d.setContent t) := by
  obtain ⟨document, disk, notices, log⟩ := s
  obtain rfl : document = d.fields := h
  rw [run_setContent]
  cases d <;> rfl

theorem run_save_usual (h : s.document = d.fields) :
    (save .usual).run s =
      match d.save s.disk with
      | .ok (saved, d, disk) => .ok saved { s with document := d.fields, disk := disk }
      | .error e => .error e s := by
  obtain ⟨document, disk, notices, log⟩ := s
  obtain rfl : document = d.fields := h
  rw [run_save]
  cases d with
  | closed => rfl
  | opened b =>
    obtain ⟨name, path, content, snapshot, dirty⟩ := b
    cases dirty with
    | false => rfl
    | true =>
      cases path with
      | none => rfl
      | some p =>
        simp only [Document.fields, DocumentFields.isOpen, FileSystem.usual, Document.save,
          Option.isSome_some, if_true]
        cases disk.write p content <;> rfl

theorem run_insert_fields (h : s.document = d.fields) (code label : String) :
    (insert code label).run s =
      let i := d.insert code label
      .ok i.result { s with
        document := i.document.fields
        notices := s.notices ++ i.notices
        log := s.log ++ i.log } := by
  obtain ⟨document, disk, notices, log⟩ := s
  obtain rfl : document = d.fields := h
  rw [run_insert]
  cases d <;> rfl

theorem run_insertBlocks_fields (h : s.document = d.fields) (bs : List CodeBlock) :
    (insertBlocks bs).run s =
      let is := d.insertBlocks bs
      .ok (is.2.map Insertion.result) { s with
        document := is.1.fields
        notices := s.notices ++ is.2.flatMap Insertion.notices
        log := s.log ++ is.2.flatMap Insertion.log } := by
  induction bs generalizing s d with
  | nil => simp [insertBlocks, Document.insertBlocks, ← h]
  | cons b bs ih =>
    have hi := run_insert_fields h b.code b.filename
    have hbs := @ih { s with
      document := (d.insert b.code b.filename).document.fields
      notices := s.notices ++ (d.insert b.code b.filename).notices
      log := s.log ++ (d.insert b.code b.filename).log } _ rfl
    simp [insertBlocks, insertBlock, hi, hbs, Document.insertBlocks, Document.insertBlock]

end Editing.Action

end FencedChat
