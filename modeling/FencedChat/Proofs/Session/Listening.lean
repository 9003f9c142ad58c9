import FencedChat.Listening
import FencedChat.Proofs.Action
import Mathlib.Logic.Relation

/-!
What the operations of a session with a listener do as a whole, and that they are the steps of the
session: they leave the same session and the same log, and tell the listener the events of the step,
in order.
-/

namespace FencedChat

namespace Heard

variable {σ : Type}

def told (h : Heard σ) (on : Listener σ) (e : SessionEvent) : Heard σ :=
  { h with
    held := on h.session e h.held
    moments := h.moments ++ [⟨e, h.session.messages, on h.session e h.held⟩] }

def withSession (h : Heard σ) (s : ChatSession) : Heard σ := { h with session := s }

def noted (h : Heard σ) (entries : List LogEntry) : Heard σ := { h with log := h.log ++ entries }

def appended (h : Heard σ) (on : Listener σ) (m : ChatMessage) : Heard σ :=
  (h.withSession { h.session with messages := h.session.messages ++ [m] }).told on (.added m)

def withNextId (h : Heard σ) : Heard σ :=
  h.withSession { h.session with nextId := h.session.nextId + 1 }

def added (h : Heard σ) (on : Listener σ) (role : Role) (content : String) (pending : Bool) :
    Heard σ :=
  h.withNextId.appended on ⟨h.session.nextId, role, content, pending⟩

def removed (h : Heard σ) (on : Listener σ) (id : Nat) : Heard σ :=
  match h.session.messages.find? (·.id = id) with
  | none => h
  | some m => (h.withSession (h.session.remove id).session).told on (.removed m)

def cleared (h : Heard σ) (on : Listener σ) : Heard σ :=
  (h.withSession h.session.clear.session).told on .cleared

def launched (h : Heard σ) (on : Listener σ) (p : Provider) : Heard σ :=
  let request := h.session.nextRequest
  let h' := (h.withSession { h.session with nextRequest := request + 1 }).added on .assistant
    ChatSession.thinkingText true
  (h'.withSession
    { h'.session with waiting := h'.session.waiting ++ [(request, h.session.nextId)] }).noted
    [⟨.debug, "Chat", "Request " ++ toString request ++ " sent to " ++ p.service.name⟩]

def withdrawn (h : Heard σ) (on : Listener σ) (t : Ticket) : Heard σ :=
  (h.withSession
    { h.session with waiting := h.session.waiting.filter (·.1 ≠ t.request) }).removed on
    ((h.session.waiting.lookup t.request).getD t.placeholder)

/-- The placeholder of a send is taken away, and its reply is appended. The reply is made before
that. -/
def replied (h : Heard σ) (on : Listener σ) (t : Ticket) (role : Role) (content : String)
    (entry : LogEntry) : Heard σ :=
  ((h.noted [entry]).withNextId.withdrawn on t).appended on ⟨h.session.nextId, role, content, false⟩

namespace Action

variable {α : Type} (on : Listener σ) (h : Heard σ)

@[simp] theorem run_session : session.run h = .ok h.session h := rfl

@[simp] theorem run_setMessages (messages : List ChatMessage) :
    (setMessages messages).run h = .ok () (h.withSession { h.session with messages := messages }) :=
  rfl

@[simp] theorem run_setWaiting (waiting : List (Nat × Nat)) :
    (setWaiting waiting).run h = .ok () (h.withSession { h.session with waiting := waiting }) := rfl

@[simp] theorem run_note (entries : List LogEntry) :
    (note entries).run h = .ok () (h.noted entries) := rfl

@[simp] theorem run_emit (e : SessionEvent) : (emit on e).run h = .ok () (h.told on e) := rfl

@[simp] theorem run_newMessage (role : Role) (content : String) (pending : Bool) :
    (newMessage role content pending).run h =
      .ok ⟨h.session.nextId, role, content, pending⟩ h.withNextId := rfl

@[simp] theorem run_parse (text : String) :
    (parse text).run h = .ok (h.session.parse text).value (h.noted (h.session.parse text).log) :=
  rfl

@[simp] theorem run_append (m : ChatMessage) : (append on m).run h = .ok () (h.appended on m) := rfl

@[simp] theorem run_add (role : Role) (content : String) (pending : Bool) :
    (add on role content pending).run h =
      .ok ⟨h.session.nextId, role, content, pending⟩ (h.added on role content pending) := rfl

@[simp] theorem run_clear : (clear on).run h = .ok () (h.cleared on) := rfl

@[simp] theorem run_remove (id : Nat) :
    (remove on id).run h = .ok (h.session.remove id).value (h.removed on id) := by
  unfold removed ChatSession.remove
  cases hm : h.session.messages.find? (·.id = id) with
  | none => simp [remove, hm]
  | some m => simp [remove, hm, withSession]

theorem run_begin (text : String) :
    (begin on text).run h =
      if isBlankText text then .ok .blank h
      else
        let h' := h.added on .user text false
        match h.session.provider with
        | none =>
          let segments := h.session.parse ChatSession.missingKeyText
          .ok (.answered segments.value)
            ((h'.added on .system ChatSession.missingKeyText false).noted segments.log)
        | some p =>
          .ok (.waiting ⟨h.session.nextRequest, h.session.nextId + 1, text⟩
            (p.parameters (Provider.question text none) { model := h.session.model }))
              (h'.launched on p) := by
  cases hb : isBlankText text with
  | true => simp [begin, hb]
  | false =>
    have hs : (h.added on .user text false).session.provider = h.session.provider := rfl
    cases hp : h.session.provider with
    | none =>
      have hn :
          ((h.added on .user text false).added on .system
            ChatSession.missingKeyText false).session.parse =
          h.session.parse := rfl
      simp [begin, hb, hs, hp, hn]
    | some p =>
      simp [begin, hb, hs, hp]
      rfl

theorem run_reply (t : Ticket) (outcome : Except AskError String) :
    (reply t outcome).run h =
      match ChatSession.replyTo t.request outcome with
      | .error e => .error e h
      | .ok (role, content, entry) =>
        .ok ⟨h.session.nextId, role, content, false⟩ (h.noted [entry]).withNextId := by
  cases hr : ChatSession.replyTo t.request outcome with
  | error e => simp [reply, hr]
  | ok r => simp [reply, hr]; rfl

@[simp] theorem run_withdraw (t : Ticket) : (withdraw on t).run h = .ok () (h.withdrawn on t) := by
  simp [withdraw, withdrawn, withSession]

theorem run_finish (t : Ticket) (outcome : Except AskError String) :
    (finish on t outcome).run h =
      match ChatSession.replyTo t.request outcome with
      | .error e => .error e (h.withdrawn on t)
      | .ok (role, content, entry) =>
        let h' := h.replied on t role content entry
        .ok (h'.session.parse content).value (h'.noted (h'.session.parse content).log) := by
  have hr := run_reply h t outcome
  cases hm : ChatSession.replyTo t.request outcome with
  | error e =>
    rw [hm] at hr
    simp [finish, Action.run_tryFinally, hr]
  | ok r =>
    rw [hm] at hr
    simp [finish, Action.run_tryFinally, hr, replied]

end Action

def events (h : Heard σ) : List SessionEvent := h.moments.map Moment.event

variable {on : Listener σ} {h : Heard σ}

@[simp] theorem session_told (e : SessionEvent) : (h.told on e).session = h.session := rfl

@[simp] theorem log_told (e : SessionEvent) : (h.told on e).log = h.log := rfl

@[simp] theorem events_told (e : SessionEvent) : (h.told on e).events = h.events ++ [e] := by
  simp [told, events]

@[simp] theorem session_withSession (s : ChatSession) : (h.withSession s).session = s := rfl

@[simp] theorem log_withSession (s : ChatSession) : (h.withSession s).log = h.log := rfl

@[simp] theorem events_withSession (s : ChatSession) : (h.withSession s).events = h.events := rfl

@[simp] theorem session_noted (entries : List LogEntry) :
    (h.noted entries).session = h.session := rfl

@[simp] theorem log_noted (entries : List LogEntry) :
    (h.noted entries).log = h.log ++ entries := rfl

@[simp] theorem events_noted (entries : List LogEntry) : (h.noted entries).events = h.events := rfl

@[simp] theorem session_added (role : Role) (content : String) (pending : Bool) :
    (h.added on role content pending).session = (h.session.add role content pending).session := rfl

@[simp] theorem log_added (role : Role) (content : String) (pending : Bool) :
    (h.added on role content pending).log = h.log := rfl

@[simp] theorem events_added (role : Role) (content : String) (pending : Bool) :
    (h.added on role content pending).events =
      h.events ++ (h.session.add role content pending).events := by
  simp [added, appended, withNextId, ChatSession.add]

@[simp] theorem session_removed (id : Nat) :
    (h.removed on id).session = (h.session.remove id).session := by
  cases hm : h.session.messages.find? (·.id = id) <;> simp [removed, ChatSession.remove, hm]

@[simp] theorem log_removed (id : Nat) : (h.removed on id).log = h.log := by
  cases hm : h.session.messages.find? (·.id = id) <;> simp [removed, hm]

@[simp] theorem events_removed (id : Nat) :
    (h.removed on id).events = h.events ++ (h.session.remove id).events := by
  cases hm : h.session.messages.find? (·.id = id) <;> simp [removed, ChatSession.remove, hm]

@[simp] theorem session_withdrawn (t : Ticket) :
    (h.withdrawn on t).session = (h.session.withdraw t).session := session_removed _

@[simp] theorem log_withdrawn (t : Ticket) : (h.withdrawn on t).log = h.log := log_removed _

@[simp] theorem events_withdrawn (t : Ticket) :
    (h.withdrawn on t).events = h.events ++ (h.session.withdraw t).events := events_removed _

@[simp] theorem session_cleared : (h.cleared on).session = h.session.clear.session := rfl

@[simp] theorem log_cleared : (h.cleared on).log = h.log := rfl

@[simp] theorem events_cleared : (h.cleared on).events = h.events ++ h.session.clear.events := by
  simp [cleared, ChatSession.clear]

/-- Whose placeholder is taken away shows in the messages and in the waiting requests only. -/
theorem session_withdraw_frame (s : ChatSession) (t : Ticket) :
    (s.withdraw t).session = { s with
      messages := (s.withdraw t).session.messages
      waiting := s.waiting.filter (·.1 ≠ t.request) } := by
  unfold ChatSession.withdraw ChatSession.remove
  cases s.messages.find? (·.id = (s.waiting.lookup t.request).getD t.placeholder) <;> rfl

/-- A reply that is not appended yet has taken its id already, which taking the placeholder away
does not see. -/
theorem withdraw_withNextId (s : ChatSession) (n : Nat) (t : Ticket) :
    ({ s with nextId := n }.withdraw t).session = { (s.withdraw t).session with nextId := n } ∧
      ({ s with nextId := n }.withdraw t).events = (s.withdraw t).events := by
  unfold ChatSession.withdraw ChatSession.remove
  cases s.messages.find? (·.id = (s.waiting.lookup t.request).getD t.placeholder) <;>
    exact ⟨rfl, rfl⟩

@[simp] theorem nextId_withdraw (s : ChatSession) (t : Ticket) :
    (s.withdraw t).session.nextId = s.nextId := by
  rw [session_withdraw_frame]

@[simp] theorem reader_withdraw (s : ChatSession) (t : Ticket) :
    (s.withdraw t).session.reader = s.reader := by
  rw [session_withdraw_frame]

theorem session_replied (t : Ticket) (role : Role) (content : String) (entry : LogEntry) :
    (h.replied on t role content entry).session =
      ((h.session.withdraw t).session.add role content false).session := by
  have hn := (withdraw_withNextId h.session (h.session.nextId + 1) t).1
  simp [replied, appended, withNextId, ChatSession.add, hn]

theorem log_replied (t : Ticket) (role : Role) (content : String) (entry : LogEntry) :
    (h.replied on t role content entry).log = h.log ++ [entry] := by
  simp [replied, appended, withNextId]

theorem events_replied (t : Ticket) (role : Role) (content : String) (entry : LogEntry) :
    (h.replied on t role content entry).events = h.events ++ ((h.session.withdraw t).events ++
      ((h.session.withdraw t).session.add role content false).events) := by
  have hn := (withdraw_withNextId h.session (h.session.nextId + 1) t).2
  simp [replied, appended, withNextId, ChatSession.add, hn]

theorem log_launched (p : Provider) :
    (h.launched on p).log =
      h.log ++ [⟨.debug, "Chat", "Request " ++ toString h.session.nextRequest ++
      " sent to " ++ p.service.name⟩] := rfl

theorem events_launched (p : Provider) :
    (h.launched on p).events =
      h.events ++ (h.session.add .assistant ChatSession.thinkingText true).events := by
  simp [launched, ChatSession.add]

/-- What an action leaves is what a step of the session gives: the session, the log and the
events. -/
structure Follows {α : Type} (h h' : Heard σ) (s : SessionStep α) : Prop where
  session : h'.session = s.session
  log : h'.log = h.log ++ s.log
  events : h'.events = h.events ++ s.events

section

variable (on h)

theorem run_add_follows (role : Role) (content : String) (pending : Bool) :
    ∃ h', (Action.add on role content pending).run h =
        .ok (h.session.add role content pending).value h' ∧
      Follows h h' (h.session.add role content pending) :=
  ⟨_, rfl, rfl, (List.append_nil _).symm, events_added _ _ _⟩

theorem run_clear_follows :
    ∃ h', (Action.clear on).run h = .ok () h' ∧ Follows h h' h.session.clear :=
  ⟨_, rfl, rfl, (List.append_nil _).symm, events_cleared⟩

theorem run_remove_follows (id : Nat) :
    ∃ h', (Action.remove on id).run h = .ok (h.session.remove id).value h' ∧
      Follows h h' (h.session.remove id) := by
  refine ⟨_, Action.run_remove on h id, by simp, ?_, by simp⟩
  unfold ChatSession.remove
  cases h.session.messages.find? (·.id = id) <;> simp

theorem run_begin_follows (text : String) :
    ∃ h', (Action.begin on text).run h = .ok (h.session.begin text).value h' ∧
      Follows h h' (h.session.begin text) := by
  rw [Action.run_begin]
  unfold ChatSession.begin
  cases isBlankText text with
  | true => exact ⟨h, rfl, rfl, (List.append_nil _).symm, (List.append_nil _).symm⟩
  | false =>
    cases h.session.provider with
    | none =>
      simp only [Bool.false_eq_true, if_false]
      refine ⟨_, rfl, ?_, ?_, ?_⟩ <;> simp
    | some p =>
      simp only [Bool.false_eq_true, if_false]
      refine ⟨_, rfl, rfl, ?_, ?_⟩
      · simp [log_launched, ChatSession.add]
      · simp [events_launched]

def outcome {α : Type} (h : Heard σ) : Except AskError α → EStateM.Result AskError (Heard σ) α
  | .ok a => .ok a h
  | .error e => .error e h

theorem run_finish_follows (t : Ticket) (o : Except AskError String) :
    ∃ h', (Action.finish on t o).run h = outcome h' (h.session.finish t o).value ∧
      Follows h h' (h.session.finish t o) := by
  rw [Action.run_finish]
  unfold ChatSession.finish
  cases ChatSession.replyTo t.request o with
  | error e => exact ⟨h.withdrawn on t, rfl, by simp, by simp, by simp⟩
  | ok r =>
    obtain ⟨role, content, entry⟩ := r
    have hs : (h.replied on t role content entry).session = _ :=
      session_replied t role content entry
    have hp :
        (h.replied on t role content entry).session.parse content = h.session.parse content := by
      rw [hs]
      simp [ChatSession.parse, ChatSession.add]
    simp only [hp]
    refine ⟨_, rfl, hs, ?_, ?_⟩
    · simp [log_replied]
    · simp [events_replied]

end

/-- Calls on a session with a listener are the steps of the session. -/
theorem follows_after (h : Heard σ) (on : Listener σ) (c : Call) :
    Follows h (h.after on c) (c.step h.session) := by
  unfold after
  cases c with
  | begin text =>
    obtain ⟨h', hr, hf⟩ := run_begin_follows on h text
    rw [Call.action, Action.run_discard, hr]
    exact ⟨hf.session, hf.log, hf.events⟩
  | finish t o =>
    obtain ⟨h', hr, hf⟩ := run_finish_follows on h t o
    rw [Call.action, Action.run_discard, hr]
    cases hv : (h.session.finish t o).value <;> exact ⟨hf.session, hf.log, hf.events⟩
  | add role content pending =>
    obtain ⟨h', hr, hf⟩ := run_add_follows on h role content pending
    rw [Call.action, Action.run_discard, hr]
    exact ⟨hf.session, hf.log, hf.events⟩
  | remove id =>
    obtain ⟨h', hr, hf⟩ := run_remove_follows on h id
    rw [Call.action, Action.run_discard, hr]
    exact ⟨hf.session, hf.log, hf.events⟩
  | clear =>
    obtain ⟨h', hr, hf⟩ := run_clear_follows on h
    rw [Call.action, hr]
    exact hf

open Relation

/-- The smallest changes that the operations are made of. Whatever touches the messages is told to
the listener at once. -/
inductive Move (on : Listener σ) (h : Heard σ) : Heard σ → Prop
  | note (entries : List LogEntry) : Move on h (h.noted entries)
  | keep (s : ChatSession) (hm : s.messages = h.session.messages)
      (hr : s.reader = h.session.reader) :
    Move on h (h.withSession s)
  | append (m : ChatMessage) : Move on h (h.appended on m)
  | remove (id : Nat) (hn : (h.session.messages.map ChatMessage.id).Nodup) : Move on h
      (h.removed on id)
  | clear : Move on h (h.cleared on)

theorem moves_added (role : Role) (content : String) (pending : Bool) :
    ReflTransGen (Move on) h (h.added on role content pending) :=
  (ReflTransGen.single (.keep _ rfl rfl)).tail (.append _)

theorem moves_launched (p : Provider) : ReflTransGen (Move on) h (h.launched on p) := by
  have hn : ReflTransGen (Move on) h
      (h.withSession { h.session with nextRequest := h.session.nextRequest + 1 }) :=
    .single (.keep _ rfl rfl)
  refine .tail (.tail (hn.trans (moves_added .assistant ChatSession.thinkingText true)) ?_)
    (.note _)
  exact .keep _ rfl rfl

theorem moves_withdrawn (hn : (h.session.messages.map ChatMessage.id).Nodup) (t : Ticket) :
    ReflTransGen (Move on) h (h.withdrawn on t) :=
  (ReflTransGen.single (.keep _ rfl rfl)).tail (.remove _ hn)

theorem moves_replied (hn : (h.session.messages.map ChatMessage.id).Nodup) (t : Ticket)
    (role : Role) (content : String) (entry : LogEntry) :
    ReflTransGen (Move on) h (h.replied on t role content entry) := by
  have hm : ReflTransGen (Move on) h (h.noted [entry]).withNextId :=
    (ReflTransGen.single (.note _)).tail (.keep _ rfl rfl)
  exact (hm.trans (moves_withdrawn (h := (h.noted [entry]).withNextId) hn t)).tail (.append _)

/-- Each call is a sequence of moves. -/
theorem moves_after (hn : (h.session.messages.map ChatMessage.id).Nodup) (c : Call) :
    ReflTransGen (Move on) h (h.after on c) := by
  unfold after
  cases c with
  | begin text =>
    rw [Call.action, Action.run_discard, Action.run_begin]
    cases isBlankText text with
    | true => exact .refl
    | false =>
      have hu : ReflTransGen (Move on) h (h.added on .user text false) :=
        moves_added .user text false
      cases h.session.provider with
      | none => exact (hu.trans (moves_added _ _ _)).tail (.note _)
      | some p => exact hu.trans (moves_launched p)
  | finish t o =>
    rw [Call.action, Action.run_discard, Action.run_finish]
    cases ChatSession.replyTo t.request o with
    | error e => exact moves_withdrawn hn t
    | ok r => exact (moves_replied hn t _ _ _).tail (.note _)
  | add role content pending => exact moves_added role content pending
  | remove id =>
    rw [Call.action, Action.run_discard, Action.run_remove]
    exact .single (.remove id hn)
  | clear => exact .single .clear

end Heard

end FencedChat
