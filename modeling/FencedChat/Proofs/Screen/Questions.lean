import FencedChat.Proofs.Editor.DiskContents
import FencedChat.Proofs.Screen.Traced

/-!
Questions about unsaved changes. A question is asked about the document that is open at that moment,
and answering it discards the document that is open then. Nothing but an answer or another file
takes unsaved changes away.
-/

namespace FencedChat.App

open EditorPane

theorem Desk.questions_after (k : Desk) (step : Step) :
    (k.after step).questions =
      match step with
      | .close =>
        if k.editor.document.isDirty then k.editor.document.name :: k.questions else k.questions
      | .answer _ => k.questions.tail
      | _ => k.questions := by
  cases step with
  | openFile p =>
    change (k.openFile p).questions = _
    unfold Desk.openFile
    split <;> rfl
  | save =>
    change k.save.questions = _
    unfold Desk.save
    split <;> rfl
  | close =>
    change k.close.questions = _
    unfold Desk.close
    cases hd : k.editor.document with
    | closed => rfl
    | opened b =>
      cases hb : b.dirty <;> simp [Document.isOpen, Document.isDirty, hb, Desk.setDocument]
  | answer yes =>
    change (k.answer yes).questions = _
    unfold Desk.answer
    split
    · simp [*]
    · cases yes <;> simp [*, Desk.setDocument]
  | _ => rfl

namespace Traced

def Fits (s : Traced) : Step → Prop
  | .openFile p => ∀ d ∈ s.asked, d.identity = (some p.name, some p)
  | _ => True

def Fitting (s : Traced) : List Step → Prop
  | [] => True
  | step :: steps => s.Fits step ∧ (s.after step).Fitting steps

/-- If an affirmative answer takes unsaved changes away, they are those of the document that the
answered question is about. -/
def DiscardsAsked (s : Traced) : Prop :=
  ∀ b, s.screen.editor.document = .opened b → b.dirty = true →
    (s.screen.after (.answer true)).editor.document ≠ .opened b →
      ∃ d ∈ s.asked.head?, d.identity = (Document.opened b).identity

variable {s : Traced} {step : Step} {steps : List Step}

/-- The questions name the documents that they are about, and these had unsaved changes. -/
structure Named (s : Traced) : Prop where
  questions : s.screen.questions = s.asked.map Document.name
  dirty : ∀ d ∈ s.asked, d.isDirty = true

theorem Named.after (h : s.Named) (step : Step) : (s.after step).Named := by
  have hq : (s.after step).screen.questions = (s.screen.desk.after step).questions :=
    congrArg Desk.questions desk_after
  have hs : s.screen.desk.questions = s.asked.map Document.name := h.questions
  rw [Desk.questions_after] at hq
  cases step with
  | close =>
    cases hd : s.screen.editor.document.isDirty with
    | true =>
      have ha : (s.after .close).asked = s.screen.editor.document :: s.asked := if_pos hd
      refine ⟨?_, ?_⟩
      · rw [hq, ha, List.map_cons, ← hs]
        exact if_pos hd
      · rw [ha, List.forall_mem_cons]
        exact ⟨hd, h.dirty⟩
    | false =>
      have hn : ¬ s.screen.editor.document.isDirty = true := by simp [hd]
      have ha : (s.after .close).asked = s.asked := if_neg hn
      refine ⟨?_, ha ▸ h.dirty⟩
      rw [hq, ha, ← hs]
      exact if_neg hn
  | answer yes =>
    refine ⟨?_, fun d hd => h.dirty d (List.mem_of_mem_tail hd)⟩
    rw [hq, hs]
    exact List.map_tail.symm
  | _ => exact ⟨hq.trans hs, h.dirty⟩

theorem Named.run (h : s.Named) (steps : List Step) : (s.run steps).Named := by
  induction steps generalizing s with
  | nil => exact h
  | cons step steps ih => exact ih (h.after step)

/-- The open document is the one that all waiting questions are about. -/
def About (s : Traced) : Prop :=
  ∀ d ∈ s.asked, s.screen.editor.document.isOpen = true →
  d.identity = s.screen.editor.document.identity

theorem exists_ofContent {disk : Disk} {p : DiskPath} {d : Document}
    (h : Document.ofFile disk p = .ok d) :
    ∃ text, d = Document.ofContent p.name text (some p) := by
  unfold Document.ofFile at h
  split at h
  · unfold Document.ofFileContent at h
    split at h
    · contradiction
    · exact ⟨_, (Except.ok.inj h).symm⟩
  · contradiction
  · contradiction

theorem mem_asked_after {d : Document} (hd : d ∈ (s.after step).asked) :
    d ∈ s.asked ∨ d = s.screen.editor.document := by
  cases step with
  | close =>
    simp only [Traced.after] at hd
    split at hd
    · exact (List.mem_cons.mp hd).symm
    · exact .inl hd
  | answer yes => exact .inl (List.mem_of_mem_tail hd)
  | _ => exact .inl hd

theorem About.after (h : s.About) (hf : s.Fits step) : (s.after step).About := by
  have hm := s.screen.desk.moves step
  intro d hd ho
  rw [editor_after] at ho ⊢
  generalize (s.screen.desk.after step).editor = q at hm ho ⊢
  by_cases hs : ∃ p, step = .openFile p
  · obtain ⟨p, rfl⟩ := hs
    cases hm with
    | opened hr =>
      obtain ⟨text, rfl⟩ := exists_ofContent hr
      rw [document_setDocument]
      exact hf d hd
    | missed hr => exact h d hd ho
    | kept hl => exact hl.elim
  · obtain ⟨hb, hi⟩ := hm.identity (fun p hp => hs ⟨p, hp⟩) ho
    rw [hi]
    obtain hd | rfl := mem_asked_after hd
    · exact h d hd hb
    · rfl

theorem About.run (h : s.About) (hf : s.Fitting steps) : (s.run steps).About := by
  induction steps generalizing s with
  | nil => exact h
  | cons step steps ih => exact ih (h.after hf.1) hf.2

/-- An affirmative answer closes the document if a question waits, and does nothing otherwise. -/
theorem document_answer_true (hn : s.Named) :
    (s.screen.after (.answer true)).editor.document =
      if s.asked = [] then s.screen.editor.document else .closed := by
  have he := congrArg Desk.editor (App.desk_after (a := s.screen) (.answer true))
  change (s.screen.after (.answer true)).editor = (s.screen.desk.answer true).editor at he
  have hq : s.screen.desk.questions = s.asked.map Document.name := hn.questions
  rw [he, Desk.answer, hq]
  cases s.asked with
  | nil => rfl
  | cons d rest => exact document_setDocument _

theorem discardsAsked (hn : s.Named) (h : s.About) : s.DiscardsAsked := by
  intro b hb _ hlost
  cases ha : s.asked with
  | nil =>
    rw [document_answer_true hn, if_pos ha] at hlost
    exact absurd hb hlost
  | cons d rest =>
    refine ⟨d, rfl, ?_⟩
    rw [← hb]
    exact h d (by simp [ha]) (by rw [hb]; rfl)

theorem run_answer_false (n : Nat) :
    (s.run (List.replicate n (.answer false))).asked = s.asked.drop n ∧
      (s.run (List.replicate n (.answer false))).screen.editor = s.screen.editor := by
  induction n generalizing s with
  | zero => exact ⟨rfl, rfl⟩
  | succ n ih =>
    obtain ⟨ha, he⟩ := ih (s := s.after (.answer false))
    have hs : (s.after (.answer false)).screen.editor = s.screen.editor := by
      refine (congrArg Desk.editor desk_after).trans ?_
      change (s.screen.desk.answer false).editor = s.screen.desk.editor
      unfold Desk.answer
      split <;> rfl
    refine ⟨?_, he.trans hs⟩
    rw [List.replicate_succ, run, List.foldl_cons]
    refine ha.trans ?_
    rw [Traced.after, List.drop_tail]

theorem handleChange_edit {p : EditorPane} {b : Buffer} (h : p.document = .opened b) {t : String}
    (ht : (TextArea.ofText t).text = t) (hc : t ≠ b.content) :
    (p.edit t).handleChange.document =
      .opened { b with content := t, dirty := t != b.snapshot } := by
  have hd : (p.edit t).document = .opened b := h
  have hx : (p.edit t).area.text = t := ht
  change (p.edit t).follow = _
  unfold EditorPane.follow
  rw [hd, hx]
  exact if_neg hc

/-- A file that is opened while a question about another document waits can be changed, and the
question then takes these changes away. -/
theorem not_discardsAsked (hn : s.Named) {p : DiskPath} (hf : ¬ s.Fits (.openFile p)) {d : Document}
    (hd : Document.ofFile s.screen.disk p = .ok d) :
    ∃ more, ¬ (s.run (.openFile p :: more)).DiscardsAsked := by
  obtain ⟨text, rfl⟩ := exists_ofContent hd
  obtain ⟨q, hq, hi⟩ : ∃ q ∈ s.asked, q.identity ≠ (some p.name, some p) := by
    simpa [Fits] using hf
  obtain ⟨above, rest, ha⟩ := List.append_of_mem hq
  obtain ⟨t, ht, hc⟩ : ∃ t, (TextArea.ofText t).text = t ∧ t ≠ text := by
    by_cases h : text = "a"
    · exact ⟨"b", by decide, by rw [h]; decide⟩
    · exact ⟨"a", by decide, Ne.symm h⟩
  refine ⟨.edit t :: .handleChange :: List.replicate above.length (.answer false), ?_⟩
  let u := s.run [.openFile p, .edit t, .handleChange]
  have hu : u.screen.editor.document = .opened ⟨p.name, some p, t, text, t != text⟩ := by
    have hdesk :
        u.screen.desk = ((s.screen.desk.openFile p).after (.edit t)).after .handleChange := by
      simp only [u, run, List.foldl_cons, List.foldl_nil, desk_after]
      rfl
    have ho :
        s.screen.desk.openFile p = s.screen.desk.setDocument (.ofContent p.name text (some p)) := by
      unfold Desk.openFile
      rw [show s.screen.desk.disk = s.screen.disk from rfl, hd]
    rw [ho] at hdesk
    exact (congrArg (fun k : Desk => k.editor.document) hdesk).trans
      (handleChange_edit (document_setDocument _) ht hc)
  obtain ⟨hva, hve⟩ := run_answer_false (s := u) above.length
  let v := u.run (List.replicate above.length (.answer false))
  have hrun :
      s.run (.openFile p :: .edit t :: .handleChange :: List.replicate above.length
        (.answer false)) = v :=
    run_append [.openFile p, .edit t, .handleChange] _
  rw [hrun]
  intro h
  have hv : v.asked = q :: rest := by
    rw [hva, show u.asked = s.asked from rfl, ha]
    exact List.drop_left
  have hdoc : v.screen.editor.document = .opened ⟨p.name, some p, t, text, t != text⟩ := by
    rw [hve, hu]
  have hyes : (v.screen.after (.answer true)).editor.document = .closed := by
    rw [document_answer_true ((hn.run _).run _), hv]
    rfl
  obtain ⟨r, hr, hri⟩ := h _ hdoc (by simpa using hc) (by rw [hyes]; simp)
  obtain rfl : q = r := by simpa [hv] using hr
  exact hi hri

/-- How a step that opens no file and discards nothing treats an open document with unsaved
changes. -/
inductive Kept (s : Traced) (b : Buffer) : Step → Buffer → Prop
  | same {step : Step} : Kept s b step b
  /-- It follows the area, which shows what was typed, or else its own text. -/
  | followed {t : String} : t = (TextArea.ofText (s.typed.getD b.content)).text →
      Kept s b .handleChange { b with content := t, dirty := t != b.snapshot }
  | extended (c : CodeBlock) {t : String} : t = b.content ++ Insertion.separator ++ c.code →
      Kept s b (.addBlock c) { b with content := t, dirty := t != b.snapshot }
  /-- Its content is on the disk then, if it comes from there. -/
  | saved : (∀ p, b.path = some p → (s.screen.after .save).disk.read p = .ok (.text b.content)) →
      Kept s b .save { b with snapshot := b.content, dirty := false }

theorem kept_after (hs : s.Shown) {b : Buffer} (hb : s.screen.editor.document = .opened b)
    (hdirty : b.dirty = true) (ho : ∀ p, step ≠ .openFile p) (ha : step ≠ .answer true) :
    ∃ c, (s.screen.after step).editor.document = .opened c ∧ s.Kept b step c := by
  have hm := s.screen.desk.moves step
  change ∃ c, (s.after step).screen.editor.document = .opened c ∧ _
  rw [editor_after]
  generalize (s.screen.desk.after step).editor = q at hm ⊢
  cases hm with
  | kept _ | typed t => exact ⟨b, hb, .same⟩
  | opened _ | missed _ => exact absurd rfl (ho _)
  | handled =>
    obtain h | h := handleChange_opened hb
    · exact ⟨b, h, .same⟩
    · have ht := hs (by rw [hb]; rfl)
      rw [hb] at ht
      exact ⟨_, h, .followed ht⟩
  | inserted c hc =>
    obtain rfl : b = _ := Document.opened.inj (hb.symm.trans hc)
    exact ⟨_, document_setDocument _, .extended c rfl⟩
  | refused c hc => exact absurd (hb.symm.trans hc) (by simp)
  | saved hc hr =>
    obtain rfl : b = _ := Document.opened.inj (hb.symm.trans hc)
    have hd : (s.screen.after .save).disk = s.screen.desk.save.disk :=
      congrArg Desk.disk (App.desk_after .save)
    exact ⟨_, rfl, .saved (hd ▸ hr)⟩
  | closed hd =>
    have hd' : s.screen.editor.document.isDirty = false := hd
    rw [hb] at hd'
    exact absurd (hdirty.symm.trans hd') (by simp)
  | discarded => exact absurd rfl ha

/-- In every run, an affirmative answer takes away unsaved changes only of the document that the
question was asked about, provided that no other file is opened while a question waits; and this has
to be provided. Without an affirmative answer or another file, a document with unsaved changes stays
open. It takes code behind its content, follows the area, or is saved. -/
theorem unsaved_changes_kept (session : ChatSession) (disk : Disk) (document : Document)
    (logLevel : Option String) (hasClipboard : Bool) (steps : List Step) :
    let s₀ := ofScreen (start session disk document logLevel hasClipboard)
    let s := s₀.run steps
    s.Named ∧
    (s₀.Fitting steps → s.DiscardsAsked) ∧
    (∀ p d, ¬ s.Fits (.openFile p) → Document.ofFile s.screen.disk p = .ok d →
      ∃ more, ¬ (s₀.run (steps ++ .openFile p :: more)).DiscardsAsked) ∧
    ∀ b, s.screen.editor.document = .opened b → b.dirty = true →
      ∀ step, (∀ p, step ≠ .openFile p) → step ≠ .answer true →
        ∃ c, (s.screen.after step).editor.document = .opened c ∧ s.Kept b step c := by
  intro s₀ s
  have hstart : s₀.screen.desk = ⟨.ofDocument document, [], disk⟩ :=
    desk_start session disk document logLevel hasClipboard
  have hn₀ : s₀.Named := ⟨congrArg Desk.questions hstart, by simp [s₀, ofScreen]⟩
  have hn : s.Named := hn₀.run steps
  refine ⟨hn, ?_, ?_, ?_⟩
  · intro hf
    have ha₀ : s₀.About := by simp [About, s₀, ofScreen]
    exact discardsAsked hn (ha₀.run hf)
  · intro p d hf hd
    obtain ⟨more, hm⟩ := not_discardsAsked hn hf hd
    refine ⟨more, ?_⟩
    rwa [run_append]
  · intro b hb hdirty step ho ha
    exact kept_after (shown_run session disk document logLevel hasClipboard steps) hb hdirty ho ha

def twoFiles : Disk := ⟨[], [(["a.txt"], .file (.text "a")), (["b.txt"], .file (.text "b"))]⟩

def onFirst : App :=
  start (.start none none) twoFiles (.ofContent "a.txt" "a" (some ⟨"", ["a.txt"]⟩)) none false

def closing : List Step := [.edit "x", .handleChange, .close]

theorem unsaved_changes_kept_closing :
    let s := (ofScreen onFirst).run closing
    s.screen.questions = [some "a.txt"] ∧ s.DiscardsAsked ∧
      (∃ more,
        ¬ ((ofScreen onFirst).run (closing ++ .openFile ⟨"", ["b.txt"]⟩ :: more)).DiscardsAsked) ∧
      ∃ c, (s.screen.after .close).editor.document = .opened c ∧
        s.Kept ⟨"a.txt", some ⟨"", ["a.txt"]⟩, "x", "a", true⟩ .close c := by
  intro s
  obtain ⟨hn, hd, ho, hk⟩ := unsaved_changes_kept (.start none none) twoFiles
    (.ofContent "a.txt" "a" (some ⟨"", ["a.txt"]⟩)) none false closing
  have hf : (ofScreen onFirst).Fitting closing := ⟨trivial, trivial, trivial, trivial⟩
  have hb : s.screen.editor.document = .opened ⟨"a.txt", some ⟨"", ["a.txt"]⟩, "x", "a", true⟩ := by
    decide
  have hasked : s.asked = [.opened ⟨"a.txt", some ⟨"", ["a.txt"]⟩, "x", "a", true⟩] := by decide
  have hother : ¬ s.Fits (.openFile ⟨"", ["b.txt"]⟩) := by
    intro h
    have hi := h (.opened ⟨"a.txt", some ⟨"", ["a.txt"]⟩, "x", "a", true⟩) (by rw [hasked]; simp)
    revert hi
    decide
  have hclose := hk _ hb rfl .close (by simp) (by simp)
  have hread : Document.ofFile s.screen.disk ⟨"", ["b.txt"]⟩ =
      .ok (.ofContent "b.txt" "b" (some ⟨"", ["b.txt"]⟩)) := by decide
  exact ⟨hn.questions.trans (congrArg (List.map Document.name) hasked), hd hf,
    ho _ _ hother hread, hclose⟩

/-- The answer to the question about one file takes away the unsaved changes of another. -/
theorem other_changes_discarded :
    let s :=
      (ofScreen onFirst).run (closing ++ [.openFile ⟨"", ["b.txt"]⟩, .edit "y", .handleChange])
    s.screen.question? = some "a.txt has unsaved changes. Close it anyway?" ∧
      s.screen.editor.document = .opened ⟨"b.txt", some ⟨"", ["b.txt"]⟩, "y", "b", true⟩ ∧
      (s.screen.after (.answer true)).editor.document = .closed ∧
      (s.screen.after (.answer true)).disk.read ⟨"", ["b.txt"]⟩ = .ok (.text "b") := by
  decide

end Traced

end FencedChat.App
