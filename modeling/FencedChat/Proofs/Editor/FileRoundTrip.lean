import FencedChat.Proofs.Editor.DiskContents
import FencedChat.Proofs.Editor.Insertions

/-!
Loading a file, inserting code and saving. What was inserted is appended to the file. Of what the
file held before, the line ends become newlines, and nothing else changes.
-/

namespace FencedChat

theorem plainNewlinesOnto_of_notMem {s : List Char} (h : '\r' ∉ s) (done : List Char) :
    plainNewlinesOnto done s = done.reverse ++ s := by
  fun_induction plainNewlinesOnto done s with
  | case1 done => simp
  | case2 done r _ => simp at h
  | case3 done r _ _ => simp at h
  | case4 done c r _ _ ih =>
    rw [ih fun hr => h (List.mem_cons_of_mem c hr)]
    simp

theorem notMem_plainNewlinesOnto {done : List Char} (h : '\r' ∉ done) (s : List Char) :
    '\r' ∉ plainNewlinesOnto done s := by
  fun_induction plainNewlinesOnto done s with
  | case1 done => simpa using h
  | case2 done r ih => exact ih (by simpa using h)
  | case3 done r _ ih => exact ih (by simpa using h)
  | case4 done c r _ hc ih =>
    apply ih
    rw [List.mem_cons, not_or]
    exact ⟨fun he => hc he.symm, h⟩

/-- Only carriage returns are lost when line ends become newlines. -/
theorem plainNewlines_eq_self_iff (s : String) : plainNewlines s = s ↔ '\r' ∉ s.toList := by
  constructor
  · intro h
    rw [← h, plainNewlines, String.toList_ofList]
    exact notMem_plainNewlinesOnto List.not_mem_nil s.toList
  · intro h
    rw [plainNewlines, plainNewlinesOnto_of_notMem h]
    simp

namespace Editing

def appendToFile (p : DiskPath) (xs : List (String × String)) : Action Bool := do
  Action.loadFile .usual p
  discard (Action.insertAll xs)
  Action.save .usual

variable {s : Editing} {p : DiskPath} {e : Disk}

theorem run_loadFile_of_read {f : String} (h : s.disk.read p = .ok (.text f)) :
    (Action.loadFile .usual p).run s = .ok () { s with
      document := ⟨some p.name, some p, plainNewlines f, plainNewlines f, false⟩ } := by
  simp [Action.run_loadFile, FileSystem.usual, h]

theorem run_save_of_write (ho : s.document.isOpen = true) (hd : s.document.dirty = true)
    (hp : s.document.path = some p) (hw : s.disk.write p s.document.content = .ok e) :
    (Action.save .usual).run s = .ok true { s with document := s.document.saved, disk := e } := by
  simp [Action.run_save, FileSystem.usual, ho, hd, hp, hw]

/-- Codes that are inserted into the document of a file are saved behind its text, whose line ends
are newlines then. The file holds its own text and the codes exactly if there were no other line
ends. -/
theorem appendToFile_contents (s : Editing) (p : DiskPath) (f : String)
    (xs : List (String × String))
    (hf : s.disk.read p = .ok (.ofBytes f.toUTF8.data.toList)) (hx : xs ≠ []) :
    let added := String.join (xs.map fun x => "\n\n" ++ x.1)
    ∃ t, (appendToFile p xs).run s = .ok true t ∧
      t.disk.read p = .ok (.ofBytes (plainNewlines f ++ added).toUTF8.data.toList) ∧
      (t.disk.read p = .ok (.ofBytes (f ++ added).toUTF8.data.toList) ↔ '\r' ∉ f.toList) := by
  intro added
  rw [FileContent.ofBytes_toUTF8] at hf
  -- the document with the codes behind the text of the file
  let loaded : DocumentFields := ⟨some p.name, some p, plainNewlines f, plainNewlines f, false⟩
  let d := loaded.appendedAll (xs.map Prod.fst)
  obtain ⟨hname, hpath, _⟩ := loaded.appendedAll_same (xs.map Prod.fst)
  have hopen : d.isOpen = true := congrArg Option.isSome hname
  have hdirty : d.dirty = true := loaded.dirty_appendedAll rfl (by simpa using hx)
  have hcontent : d.content = plainNewlines f ++ added := by
    rw [loaded.content_appendedAll, Insertion.joined, List.map_map]
    rfl
  obtain ⟨e, hw, hread⟩ := Disk.exists_write hf d.content
  rw [hcontent] at hread
  have hrun : ∃ t, (appendToFile p xs).run s = .ok true t ∧ t.disk = e := by
    unfold appendToFile
    rw [EStateM.run_bind, run_loadFile_of_read hf]
    simp only [EStateM.run_bind, Action.run_discard]
    rw [Action.run_insertAll_of_isOpen rfl]
    exact ⟨_, run_save_of_write hopen hdirty hpath hw, rfl⟩
  obtain ⟨t, ht, rfl⟩ := hrun
  refine ⟨t, ht, ?_, ?_⟩
  · rw [hread, FileContent.ofBytes_toUTF8]
  · rw [hread, FileContent.ofBytes_toUTF8, ← plainNewlines_eq_self_iff]
    simp

def oneFile (f : String) : Disk := ⟨[], [(["a.txt"], .file (.text f))]⟩

theorem appendToFile_newlines :
    ∃ t, (appendToFile ⟨"", ["a.txt"]⟩ [("b", "b.py"), ("", "c.py")]).run
      (start (oneFile "\ufeffx\ny")) =
        .ok true t ∧
      t.disk.read ⟨"", ["a.txt"]⟩ = .ok (.ofBytes "\ufeffx\ny\n\nb\n\n".toUTF8.data.toList) := by
  have hf : (oneFile "\ufeffx\ny").read ⟨"", ["a.txt"]⟩ =
      .ok (.ofBytes "\ufeffx\ny".toUTF8.data.toList) := by
    rw [FileContent.ofBytes_toUTF8]
    rfl
  obtain ⟨t, ht, -, hiff⟩ := appendToFile_contents (start (oneFile "\ufeffx\ny")) ⟨"", ["a.txt"]⟩
    "\ufeffx\ny" [("b", "b.py"), ("", "c.py")] hf (by simp)
  exact ⟨t, ht, hiff.mpr (by decide)⟩

/-- A line end of two characters in the file is lost. -/
theorem appendToFile_lineEnd :
    ∃ t, (appendToFile ⟨"", ["a.txt"]⟩ [("z", "b.py")]).run (start (oneFile "x\r\ny")) =
      .ok true t ∧
      t.disk.read ⟨"", ["a.txt"]⟩ = .ok (.text "x\ny\n\nz") ∧
      t.disk.read ⟨"", ["a.txt"]⟩ ≠ .ok (.text "x\r\ny\n\nz") := by
  have hne : FileContent.text "x\ny\n\nz" ≠ .text "x\r\ny\n\nz" := by decide
  exact ⟨_, rfl, rfl, fun h => hne (Except.ok.inj h)⟩

end Editing

end FencedChat
