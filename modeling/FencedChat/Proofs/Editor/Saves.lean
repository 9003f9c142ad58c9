import FencedChat.Proofs.Editor.DiskContents
import FencedChat.Proofs.Editor.Runs

/-!
Only a save writes. After any run of calls a file holds what was last saved to it, and a file that
nothing was saved to holds what it held at the start.
-/

namespace FencedChat

namespace Disk

def file? (d : Disk) (place : List String) : Option FileContent :=
  match d.node? place with
  | some (.file c) => some c
  | _ => none

/-- A write changes the file that the path leads to, and no other. -/
theorem file?_of_write {d e : Disk} {p : DiskPath} {place q : List String} {s : String}
    (h : d.write p s = .ok e) (hp : d.place p = .ok place) :
    e.file? q = if place = q then some (.text s) else d.file? q := by
  unfold file?
  rw [node?_of_write h hp]
  by_cases hq : place = q
  · rw [if_pos hq.symm, if_pos hq]
  · rw [if_neg (Ne.symm hq), if_neg hq]

end Disk

/-- A write does to the disk what it should or fails, and a write that fails leaves the disk as it
was. -/
structure FileSystem.Atomic (system : FileSystem) : Prop where
  written {p : DiskPath} {s : String} {d e : Disk} : system.write p s d = .ok () e →
  d.write p s = .ok e
  refused {p : DiskPath} {s : String} {d e : Disk} {x : DiskError} :
    system.write p s d = .error x e → e = d

namespace FileSystem

theorem atomic_usual : usual.Atomic where
  written := by
    intro p s d e h
    unfold usual at h
    cases hw : d.write p s <;> simp_all
  refused := by
    intro p s d e x h
    unfold usual at h
    cases hw : d.write p s <;> simp_all

def readOnly : FileSystem := { usual with write := fun _ _ d => .error .noSuchFile d }

theorem atomic_readOnly : readOnly.Atomic where
  written h := nomatch h
  refused h := by
    injection h with _ h
    exact h.symm

end FileSystem

namespace Editing

/-- What a call saves to a place: the content of the document, if the call is a save that returns
true and the path of the document leads to the place. -/
def saved? (s : Editing) (system : FileSystem) (c : Call) (q : List String) : Option String :=
  match c with
  | .save =>
    match (Action.save system).run s, s.document.path.map s.disk.place with
    | .ok true _, some (.ok place) => if place = q then some s.document.content else none
    | _, _ => none
  | _ => none

/-- What the last save to a place saved, in a run of calls. -/
def lastSaved? (s : Editing) (q : List String) : List (FileSystem × Call) → Option String
  | [] => none
  | c :: calls => ((s.after c.1 c.2).lastSaved? q calls).or (s.saved? c.1 c.2 q)

variable {s : Editing} {system : FileSystem} {c : Call} {q : List String}

/-- No other call than a save touches the disk, whatever the system does. -/
theorem disk_after_of_ne_save (h : c ≠ .save) : (s.after system c).disk = s.disk := by
  unfold after
  cases c with
  | load name content path => rfl
  | close => rfl
  | save => contradiction
  | setContent t =>
    simp only [Call.action, Action.run_setContent]
    cases s.document.isOpen <;> rfl
  | insert code label =>
    simp only [Call.action, Action.run_discard, Action.run_insert]
    cases s.document.isOpen <;> rfl
  | loadFile p =>
    simp only [Call.action, Action.run_loadFile]
    cases system.isFile p s.disk with
    | error e => rfl
    | ok found =>
      cases found with
      | false => rfl
      | true =>
        cases system.read p s.disk with
        | error e => rfl
        | ok c => cases c <;> rfl

/-- A save writes the content where the document comes from and returns true, or it leaves the disk
alone and saves nothing. -/
theorem save_cases (h : system.Atomic) (s : Editing) :
    (∃ p u, (Action.save system).run s = .ok true u ∧ s.document.path = some p ∧
        s.disk.write p s.document.content = .ok u.disk) ∨
      (s.after system .save).disk = s.disk ∧
        ∀ u, (Action.save system).run s = .ok true u → s.document.path = none := by
  simp only [after, Call.action, Action.run_discard, Action.run_save]
  cases s.document.isOpen with
  | false => exact .inr ⟨rfl, nofun⟩
  | true =>
    cases s.document.dirty with
    | false => exact .inr ⟨rfl, nofun⟩
    | true =>
      cases s.document.path with
      | none => exact .inr ⟨rfl, fun _ _ => rfl⟩
      | some p =>
        simp only [if_true]
        cases hw : system.write p s.document.content s.disk with
        | ok _ e => exact .inl ⟨p, _, rfl, rfl, h.written hw⟩
        | error x e => exact .inr ⟨h.refused hw, nofun⟩

/-- A save that returns ends where it left the document and the disk. -/
theorem after_save {u : Editing} {saved : Bool} (h : (Action.save system).run s = .ok saved u) :
    s.after system .save = u := by
  simp only [after, Call.action, Action.run_discard, h]

/-- What a call leaves in a file is what it saves there, or else what was there. -/
theorem file?_after (h : system.Atomic) (s : Editing) (c : Call) (q : List String) :
    (s.after system c).disk.file? q = ((s.saved? system c q).map .text).or (s.disk.file? q) := by
  by_cases hc : c = .save
  · subst hc
    obtain ⟨p, u, hu, hp, hw⟩ | ⟨hd, hn⟩ := save_cases h s
    · obtain ⟨place, hplace, -⟩ := Disk.write_eq_ok hw
      have hs : s.saved? system .save q = if place = q then some s.document.content else none := by
        simp only [saved?, hu, hp, Option.map_some, hplace]
      rw [after_save hu, hs, Disk.file?_of_write hw hplace]
      split <;> rfl
    · have hs : s.saved? system .save q = none := by
        simp only [saved?]
        split
        · rename_i u place hu hp
          rw [hn u hu] at hp
          contradiction
        · rfl
      rw [hd, hs]
      rfl
  · have hs : s.saved? system c q = none := by
      cases c with
      | save => contradiction
      | _ => rfl
    rw [disk_after_of_ne_save hc, hs]
    rfl

/-- No call makes a path lead elsewhere. -/
theorem place_after_iff (h : system.Atomic) (s : Editing) (c : Call) (p : DiskPath) :
    (s.after system c).disk.place p = .ok q ↔ s.disk.place p = .ok q := by
  by_cases hc : c = .save
  · subst hc
    obtain ⟨r, u, hu, -, hw⟩ | ⟨hd, -⟩ := save_cases h s
    · rw [after_save hu]
      exact Disk.place_write_iff hw
    · rw [hd]
  · rw [disk_after_of_ne_save hc]

theorem file?_run {calls : List (FileSystem × Call)} (h : ∀ c ∈ calls, c.1.Atomic)
    (q : List String) :
    (s.run calls).disk.file? q = ((s.lastSaved? q calls).map .text).or (s.disk.file? q) := by
  induction calls generalizing s with
  | nil => rfl
  | cons c calls ih =>
    rw [List.forall_mem_cons] at h
    have hr : s.run (c :: calls) = (s.after c.1 c.2).run calls := rfl
    rw [hr, ih h.2, file?_after h.1, lastSaved?, Option.map_or, Option.or_assoc]

theorem place_run_iff {calls : List (FileSystem × Call)} (h : ∀ c ∈ calls, c.1.Atomic)
    (p : DiskPath) :
    (s.run calls).disk.place p = .ok q ↔ s.disk.place p = .ok q := by
  induction calls generalizing s with
  | nil => rfl
  | cons c calls ih =>
    rw [List.forall_mem_cons] at h
    exact (ih (s := s.after c.1 c.2) h.2).trans (place_after_iff h.1 s c.2 p)

/-- A call that saves to a place is a save that returns true on a document of the place. -/
theorem saved?_eq_some {t : String} (h : s.saved? system c q = some t) :
    c = .save ∧ ∃ u p, (Action.save system).run s = .ok true u ∧ s.document.path = some p ∧
      s.disk.place p = .ok q ∧ s.document.content = t := by
  unfold saved? at h
  split at h
  · split at h
    · rename_i u place hu hmap
      obtain ⟨p, hp, hplace⟩ := Option.map_eq_some_iff.mp hmap
      split at h
      · subst q
        exact ⟨rfl, u, p, hu, hp, hplace, Option.some.inj h⟩
      · contradiction
    · contradiction
  · contradiction

/-- The last save to a place, with the calls before it and those behind it. -/
theorem exists_of_lastSaved? {calls : List (FileSystem × Call)} {t : String}
    (h : s.lastSaved? q calls = some t) :
    ∃ before c later, calls = before ++ c :: later ∧ (s.run before).saved? c.1 c.2 q = some t ∧
      ((s.run before).after c.1 c.2).lastSaved? q later = none := by
  induction calls generalizing s with
  | nil => contradiction
  | cons c calls ih =>
    rw [lastSaved?, Option.or_eq_some_iff] at h
    obtain hl | ⟨hn, ht⟩ := h
    · obtain ⟨before, d, later, rfl, hd, hn⟩ := ih hl
      exact ⟨c :: before, d, later, rfl, hd, hn⟩
    · exact ⟨[], c, calls, rfl, ht, hn⟩

/-- After any run, on systems whose failed writes leave the disk as it was, each file holds what the
last save to it saved, or what it held at the start if there was none. A file that has changed was
saved by a call that returned true on a document of a path that leads to it. Of the steps that may
come next, only a save that returns true touches the disk. -/
theorem file_eq_lastSaved (s : Editing) (calls : List (FileSystem × Call))
    (h : ∀ c ∈ calls, c.1.Atomic) :
    let t := s.run calls
    (∀ q, t.disk.file? q = ((s.lastSaved? q calls).map .text).or (s.disk.file? q)) ∧
      (∀ q, t.disk.file? q ≠ s.disk.file? q → ∃ before system later,
        calls = before ++ (system, .save) :: later ∧
        let m := s.run before
        ∃ u p, (Action.save system).run m = .ok true u ∧ m.document.path = some p ∧
          s.disk.place p = .ok q ∧ t.disk.file? q = some (.text m.document.content) ∧
          u.lastSaved? q later = none) ∧
      (∀ p q, t.disk.place p = .ok q ↔ s.disk.place p = .ok q) ∧
      ∀ (system : FileSystem) (c : Call),
        (c ≠ .save ∨ system.Atomic ∧ ∀ u, (Action.save system).run t ≠ .ok true u) →
          (t.after system c).disk = t.disk := by
  intro t
  refine ⟨file?_run h, ?_, fun p _ => place_run_iff h p, ?_⟩
  · intro q hq
    have hf : t.disk.file? q = _ := file?_run h q
    cases hl : s.lastSaved? q calls with
    | none =>
      rw [hl] at hf
      exact absurd hf hq
    | some text =>
      obtain ⟨before, ⟨system, c⟩, later, rfl, hc, hn⟩ := exists_of_lastSaved? hl
      obtain ⟨rfl, u, p, hu, hp, hplace, rfl⟩ := saved?_eq_some hc
      have hb : ∀ c ∈ before, c.1.Atomic := fun c hm => h c (List.mem_append_left _ hm)
      refine ⟨before, system, later, rfl, u, p, hu, hp, (place_run_iff hb p).mp hplace, ?_, ?_⟩
      · rw [hf, hl]
        rfl
      · rw [← after_save hu]
        exact hn
  · intro system c hc
    by_cases he : c = .save
    · subst he
      obtain ⟨ha, hu⟩ := hc.resolve_left (not_not_intro rfl)
      obtain ⟨p, u, hr, -⟩ | ⟨hd, -⟩ := save_cases ha t
      · exact absurd hr (hu u)
      · exact hd
    · exact disk_after_of_ne_save he

/-- A disk with a file and a directory below the working directory, and a file beside it. -/
def twoFiles : Disk :=
  ⟨["home"], [(["home", "a"], .file (.text "1")), (["b"], .file (.text "2")),
    (["home", "c"], .directory)]⟩

/-- A document is saved by paths that lead to one file, one of them from the top of the disk.
Another one is changed, but the system takes no write then. -/
def rebound : List (FileSystem × Call) :=
  [(.usual, .loadFile ⟨"/", ["home", "a"]⟩), (.usual, .setContent "3"), (.usual, .save),
    (.usual, .load "a" "4" (some ⟨"", ["c", "..", "a"]⟩)), (.usual, .setContent "5"),
    (.usual, .save),
    (.usual, .save), (.usual, .setContent "6"), (.usual, .loadFile ⟨"/", ["b"]⟩),
    (.usual, .insert "7" "d"), (.readOnly, .save), (.usual, .close), (.usual, .save)]

theorem file_eq_lastSaved_rebound :
    (∀ c ∈ rebound, c.1.Atomic) ∧
      ((start twoFiles).run (rebound.take 3)).disk.read ⟨"/", ["home", "a"]⟩ = .ok (.text "3") ∧
      ((start twoFiles).run rebound).disk.file? ["home", "a"] = some (.text "5") ∧
      ((start twoFiles).run rebound).disk.file? ["b"] = some (.text "2") := by
  have h : ∀ c ∈ rebound, c.1.Atomic := by
    simp only [rebound, List.forall_mem_cons, FileSystem.atomic_usual, FileSystem.atomic_readOnly,
      List.not_mem_nil, false_implies, implies_true, and_self]
  have hf := (file_eq_lastSaved (start twoFiles) rebound h).1
  have ha : (start twoFiles).lastSaved? ["home", "a"] rebound = some "5" := by decide
  have hb : (start twoFiles).lastSaved? ["b"] rebound = none := by decide
  refine ⟨h, rfl, ?_, ?_⟩
  · rw [hf, ha]
    rfl
  · rw [hf, hb]
    rfl

end Editing

end FencedChat
