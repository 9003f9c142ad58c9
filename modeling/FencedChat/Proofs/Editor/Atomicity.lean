import FencedChat.Editor.Inserting
import FencedChat.Proofs.Action

/-!
Insertions into any document are all or nothing. The document is asked to take the new content at
most once, and the one notice and the one log entry say whether it took it.
-/

namespace FencedChat

namespace Inserting

variable {σ : Type} {α : Type}

def withCalls (s : Inserting σ) (calls : List DocumentCall) : Inserting σ :=
  { s with calls := s.calls ++ calls }

def withDocument (s : Inserting σ) (document : σ) : Inserting σ := { s with document := document }

variable (s : Inserting σ)

@[simp] theorem document_withCalls (calls : List DocumentCall) :
    (s.withCalls calls).document = s.document := rfl

@[simp] theorem document_withDocument (document : σ) :
    (s.withDocument document).document = document := rfl

@[simp] theorem withCalls_withCalls (calls more : List DocumentCall) :
    (s.withCalls calls).withCalls more = s.withCalls (calls ++ more) := by
  simp [withCalls]

@[simp] theorem withDocument_withCalls (document : σ) (calls : List DocumentCall) :
    (s.withDocument document).withCalls calls = (s.withCalls calls).withDocument document := rfl

def reported (i : Insertion σ) : Inserting σ :=
  { s with document := i.document, notices := s.notices ++ i.notices, log := s.log ++ i.log }

@[simp] theorem reported_withDocument (document : σ) (i : Insertion σ) :
    (s.withDocument document).reported i = s.reported i := rfl

namespace Action

variable (doc : ActiveDocument σ)

@[simp] theorem run_called (c : DocumentCall) : (called c).run s = .ok () (s.withCalls [c]) := rfl

@[simp] theorem run_isOpen :
    (isOpen doc).run s =
      .ok (doc.isOpen s.document) (s.withCalls [.isOpen (doc.isOpen s.document)]) := rfl

@[simp] theorem run_name :
    (name doc).run s = .ok (doc.name s.document) (s.withCalls [.name (doc.name s.document)]) := rfl

@[simp] theorem run_content :
    (content doc).run s =
      match doc.content s.document with
      | .ok current => .ok current (s.withCalls [.content (.ok current)])
      | .error e => .error e (s.withCalls [.content (.error e)]) := by
  cases h : doc.content s.document <;> simp [content, h]

@[simp] theorem run_setContent (text : String) :
    (setContent doc text).run s =
      match doc.setContent text s.document with
      | .ok document => .ok () ((s.withCalls [.setContent text (.ok ())]).withDocument document)
      | .error e => .error e (s.withCalls [.setContent text (.error e)]) := by
  cases h : doc.setContent text s.document <;> simp [setContent, withDocument, h]

@[simp] theorem run_reject (label operation : String) :
    (reject label operation).run s =
      .ok (Insertion.rejected s.document label).result (s.reported (.rejected s.document label)) :=
  rfl

@[simp] theorem run_accept (code label : String) :
    (accept doc code label).run s =
      let i := Insertion.accepted s.document (doc.name s.document) code label
      .ok i.result ((s.withCalls [.name (doc.name s.document)]).reported i) := rfl

theorem run_append (code : String) :
    (append doc code).run s =
      match doc.content s.document with
      | .error e => .ok (some e.operation) (s.withCalls [.content (.error e)])
      | .ok current =>
        let text := current ++ Insertion.separator ++ code
        match doc.setContent text s.document with
        | .error e =>
          .ok (some e.operation) (s.withCalls [.content (.ok current), .setContent text (.error e)])
        | .ok document =>
          .ok none ((s.withCalls [.content (.ok current), .setContent text (.ok ())]).withDocument
            document) := by
  unfold append
  rw [Action.run_tryCatch]
  cases hc : doc.content s.document with
  | error e => simp [hc]
  | ok current =>
    cases hs : doc.setContent (current ++ Insertion.separator ++ code) s.document with
    | error e => simp [hc, hs]
    | ok document => simp [hc, hs]

end Action

/-- The calls of a document that an insertion of code makes. -/
def callsOf (doc : ActiveDocument σ) (d : σ) (code : String) : List DocumentCall :=
  if doc.isOpen d then
    match doc.content d with
    | .error e => [.isOpen true, .content (.error e)]
    | .ok current =>
      let text := current ++ Insertion.separator ++ code
      match doc.setContent text d with
      | .error e => [.isOpen true, .content (.ok current), .setContent text (.error e)]
      | .ok t =>
        [.isOpen true, .content (.ok current), .setContent text (.ok ()), .name (doc.name t)]
  else [.isOpen false]

/-- An insertion never fails. It leaves what it leaves as a whole. -/
theorem run_insert (doc : ActiveDocument σ) (s : Inserting σ) (code label : String) :
    (Action.insert doc code label).run s =
      let i := Insertion.run doc s.document code label
      .ok i.result ((s.withCalls (callsOf doc s.document code)).reported i) := by
  unfold Action.insert Insertion.run callsOf
  cases ho : doc.isOpen s.document with
  | false => simp [ho]
  | true =>
    cases hc : doc.content s.document with
    | error e => simp [ho, hc, Action.run_append, reported, Insertion.rejected]
    | ok current =>
      cases hs : doc.setContent (current ++ Insertion.separator ++ code) s.document with
      | error e => simp [ho, hc, hs, Action.run_append]
      | ok document =>
        simp [ho, hc, hs, Action.run_append]

def asked (calls : List DocumentCall) : List (String × Bool) :=
  calls.filterMap fun
    | .setContent content outcome => some (content, outcome.isOk)
    | _ => none

theorem status_accepted (d : σ) (name : Option String) (code label : String) :
    (Insertion.accepted d name code label).result.status = .inserted := rfl

theorem status_rejected (d : σ) (label : String) :
    (Insertion.rejected d label).result.status = .noActiveDocument := rfl

/-- A document takes code behind its content and becomes another. -/
structure Takes (doc : ActiveDocument σ) (d : σ) (code : String) (current : String)
    (t : σ) : Prop where
  isOpen : doc.isOpen d = true
  content : doc.content d = .ok current
  setContent : doc.setContent (current ++ Insertion.separator ++ code) d = .ok t

/-- Code is inserted if the document takes it. In all other cases the insertion is rejected, and the
document was not asked to take anything or refused what it was asked to take. -/
theorem run_exits (doc : ActiveDocument σ) (d : σ) (code label : String) :
    (∃ current t, Takes doc d code current t ∧
      Insertion.run doc d code label = .accepted t (doc.name t) code label ∧
      asked (callsOf doc d code) = [(current ++ Insertion.separator ++ code, true)]) ∨
    ((∀ current t, ¬ Takes doc d code current t) ∧
      Insertion.run doc d code label = .rejected d label ∧
      ∀ x ∈ asked (callsOf doc d code), x.2 = false) := by
  unfold Insertion.run callsOf
  cases ho : doc.isOpen d with
  | false =>
    exact .inr ⟨fun _ _ h => by simp [h.isOpen] at ho, rfl, by simp [asked]⟩
  | true =>
    cases hc : doc.content d with
    | error e =>
      exact .inr ⟨fun _ _ h => by simp [h.content] at hc, rfl, by simp [asked]⟩
    | ok current =>
      cases hs : doc.setContent (current ++ Insertion.separator ++ code) d with
      | error e =>
        refine .inr ⟨fun c t h => ?_, by simp [hs], by simp [hs, asked, Except.isOk, Except.toBool]⟩
        obtain rfl : c = current := Except.ok.inj (h.content.symm.trans hc)
        simp [h.setContent] at hs
      | ok t =>
        exact .inl ⟨current, t, ⟨ho, hc, hs⟩, by simp [hs],
          by simp [hs, asked, Except.isOk, Except.toBool]⟩

/-- Inserting code into a document never fails, whatever the document does. There is one notice and
one log entry. The code is inserted exactly if the document took what it was asked to take, which it
was asked once; otherwise the document is as it was, and the notice is the error that the result
holds. -/
theorem insert_atomic (doc : ActiveDocument σ) (s : Inserting σ) (code label : String) :
    let i := Insertion.run doc s.document code label
    ∃ calls,
      (Action.insert doc code label).run s =
        .ok i.result ⟨i.document, s.calls ++ calls, s.notices ++ i.notices, s.log ++ i.log⟩ ∧
      i.log.length = 1 ∧
      (i.result.status = .inserted ↔ ∃ content, (content, true) ∈ asked calls) ∧
      if i.result.status = .inserted then
        i.notices = [⟨.success, i.result.message⟩] ∧
        ∃ current, Takes doc s.document code current i.document ∧
          asked calls = [(current ++ "\n\n" ++ code, true)]
      else
        i.notices = [⟨.error, i.result.message⟩] ∧ i.result.status = .noActiveDocument ∧
          i.document = s.document ∧ ∀ current t, ¬ Takes doc s.document code current t := by
  intro i
  have hrun : (Action.insert doc code label).run s =
      .ok i.result ((s.withCalls (callsOf doc s.document code)).reported i) :=
    run_insert doc s code label
  refine ⟨callsOf doc s.document code, hrun, ?_⟩
  clear hrun
  obtain ⟨current, t, htakes, hi, hasked⟩ | ⟨hnone, hi, hasked⟩ :=
    run_exits doc s.document code label
  · have hi : i = .accepted t (doc.name t) code label := hi
    rw [hi, hasked, status_accepted, if_pos rfl]
    exact ⟨rfl, ⟨fun _ => ⟨_, List.mem_singleton_self _⟩, fun _ => rfl⟩, rfl, current, htakes, rfl⟩
  · have hi : i = .rejected s.document label := hi
    have hrefused : ¬ ∃ content, (content, true) ∈ asked (callsOf doc s.document code) := by
      rintro ⟨content, hc⟩
      cases hasked _ hc
    rw [hi, status_rejected, if_neg (by decide)]
    exact ⟨rfl, ⟨fun h => (nomatch h), fun h => absurd h hrefused⟩, rfl, rfl, rfl, hnone⟩

end Inserting

end FencedChat
