import FencedChat.Editor.Disk

/-!
What a write leaves on the disk. A file that can be read can be written, and holds what was written
last.
-/

namespace FencedChat

/-- The bytes of a text are read as that text. -/
theorem FileContent.ofBytes_toUTF8 (s : String) :
    FileContent.ofBytes s.toUTF8.data.toList = .text s := by
  have hs : String.fromUTF8? s.toUTF8 = some s := dif_pos s.isValidUTF8
  unfold FileContent.ofBytes
  rw [Array.toArray_toList, hs]

namespace Disk

variable {d e : Disk} {p : DiskPath} {place q : List String} {n : DiskNode} {c : FileContent}

theorem lookup_cons {nodes : List (List String × DiskNode)} :
    ((place, n) :: nodes).lookup q = if q = place then some n else nodes.lookup q := by
  rw [List.lookup_cons]
  by_cases h : q = place
  · rw [if_pos h, beq_iff_eq.mpr h]
  · rw [if_neg h, beq_eq_false_iff_ne.mpr h]

theorem lookup_putNode (nodes : List (List String × DiskNode)) :
    (putNode place n nodes).lookup q = if q = place then some n else nodes.lookup q := by
  induction nodes with
  | nil => exact lookup_cons
  | cons x nodes ih =>
    obtain ⟨r, m⟩ := x
    rw [putNode, lookup_cons]
    by_cases hr : r = place
    · rw [if_pos hr, lookup_cons, hr]
      split <;> rfl
    · rw [if_neg hr, lookup_cons, ih]
      by_cases h : q = r
      · rw [if_pos h, if_neg (h ▸ hr), if_pos h]
      · rw [if_neg h, if_neg h]

theorem node?_put : (d.put place n).node? q =
    if q <+: d.workingDirectory then some .directory else if q = place then some n
      else d.node? q := by
  unfold node? put
  rw [lookup_putNode]
  split <;> rfl

/-- A path leads to the same place on a disk that has the same directories. -/
theorem walk_of_directories (h : ∀ q, d.node? q = some .directory → e.node? q = some .directory)
    {origin : List String} {parts : List String} (hw : d.walk origin parts = .ok place) :
    e.walk origin parts = .ok place := by
  induction parts generalizing origin with
  | nil => exact hw
  | cons part parts ih =>
    unfold walk at hw ⊢
    cases hn : d.node? origin with
    | none => simp [hn] at hw
    | some node =>
      cases node with
      | file c => simp [hn] at hw
      | directory =>
        simp only [hn] at hw
        simp only [h origin hn]
        split at hw
        · simp at hw
        · rename_i hl
          rw [if_neg hl]
          exact ih hw

theorem place_of_directories (hd : e.workingDirectory = d.workingDirectory)
    (h : ∀ q, d.node? q = some .directory → e.node? q = some .directory)
    (hp : d.place p = .ok place) : e.place p = .ok place := by
  have horigin : e.origin p = d.origin p := by rw [origin, origin, hd]
  unfold Disk.place at hp ⊢
  rw [horigin]
  split at hp
  · simp at hp
  · rename_i hz
    rw [if_neg hz]
    split at hp
    · simp at hp
    · rename_i hl
      rw [if_neg hl]
      exact walk_of_directories h hp

theorem read_eq_ok (h : d.read p = .ok c) :
    ∃ place, d.place p = .ok place ∧ d.node? place = some (.file c) := by
  unfold read at h
  split at h
  · simp at h
  · rename_i place hp
    refine ⟨place, hp, ?_⟩
    split at h <;> simp_all

/-- A write that does not fail puts the text at the place of the path, where no directory stands. -/
theorem write_eq_ok {s : String} (h : d.write p s = .ok e) :
    ∃ place, d.place p = .ok place ∧ d.node? place ≠ some .directory ∧
      e = d.put place (.file (.text s)) := by
  unfold write at h
  cases hp : d.place p with
  | error x => simp [hp] at h
  | ok place =>
    have hn : d.node? place ≠ some .directory := by
      intro hn
      simp [hp, hn] at h
    refine ⟨place, rfl, hn, ?_⟩
    simp only [hp] at h
    exact (Except.ok.inj h).symm

/-- After a write the text stands at the place of the path, and all other places are as they
were. -/
theorem node?_of_write {s : String} (h : d.write p s = .ok e) (hp : d.place p = .ok place) :
    e.node? q = if q = place then some (.file (.text s)) else d.node? q := by
  obtain ⟨r, hr, hn, rfl⟩ := write_eq_ok h
  obtain rfl : r = place := Except.ok.inj (hr.symm.trans hp)
  have habove : ¬ r <+: d.workingDirectory := fun hprefix => hn (if_pos hprefix)
  rw [node?_put]
  by_cases hq : q = r
  · subst hq
    rw [if_neg habove]
  · rw [if_neg hq]
    unfold node?
    split <;> rfl

/-- A write makes no directory and takes none away. -/
theorem directory_write_iff {s : String} (h : d.write p s = .ok e) :
    e.node? q = some .directory ↔ d.node? q = some .directory := by
  obtain ⟨place, hp, hn, -⟩ := write_eq_ok h
  rw [node?_of_write h hp]
  by_cases hq : q = place
  · subst hq
    simpa using hn
  · rw [if_neg hq]

theorem workingDirectory_write {s : String} (h : d.write p s = .ok e) :
    e.workingDirectory = d.workingDirectory := by
  obtain ⟨place, -, -, rfl⟩ := write_eq_ok h
  rfl

/-- After a write every path leads where it led before. -/
theorem place_write_iff {r : DiskPath} {s : String} (h : d.write p s = .ok e) :
    e.place r = .ok q ↔ d.place r = .ok q :=
  ⟨place_of_directories (workingDirectory_write h).symm fun _ => (directory_write_iff h).mp,
    place_of_directories (workingDirectory_write h) fun _ => (directory_write_iff h).mpr⟩

/-- What is written to a file is read from it. -/
theorem read_of_write {s : String} (h : d.write p s = .ok e) : e.read p = .ok (.text s) := by
  obtain ⟨place, hp, -⟩ := write_eq_ok h
  have hn : e.node? place = some (.file (.text s)) := by rw [node?_of_write h hp, if_pos rfl]
  simp only [read, (place_write_iff h).mpr hp, hn]

/-- A file takes another text. -/
theorem exists_write (h : d.read p = .ok c) (s : String) :
    ∃ e, d.write p s = .ok e ∧ e.read p = .ok (.text s) := by
  obtain ⟨place, hp, hn⟩ := read_eq_ok h
  have hw : d.write p s = .ok (d.put place (.file (.text s))) := by simp only [write, hp, hn]
  exact ⟨_, hw, read_of_write hw⟩

end Disk

end FencedChat
