import FencedChat.Session

/-!
A session with a listener. The listener is called at each change of the messages, before anything
else is done, so it may be called in the middle of an operation. The operations are those of the
session, one assignment after the other.
-/

namespace FencedChat

/-- What a listener makes of an event. It may look at the session as it is then. -/
abbrev Listener (σ : Type) := ChatSession → SessionEvent → σ → σ

/-- A call of the listener: the messages at that moment, and what the listener held after the
call. -/
structure Moment (σ : Type) where
  event : SessionEvent
  messages : List ChatMessage
  held : σ

/-- A session with what its listener holds. The calls of the listener and the log are those so
far. -/
structure Heard (σ : Type) where
  session : ChatSession
  held : σ
  moments : List (Moment σ)
  log : List LogEntry

def SessionStep.unvalued {α : Type} (s : SessionStep α) : SessionStep Unit :=
  ⟨s.session, (), s.events, s.log⟩

namespace Heard

variable {σ : Type}

/-- A listener is set. It holds something already. -/
def start (session : ChatSession) (held : σ) : Heard σ := ⟨session, held, [], []⟩

abbrev Action (σ : Type) := EStateM AskError (Heard σ)

namespace Action

def session : Action σ ChatSession := return (← get).session

def setMessages (messages : List ChatMessage) : Action σ Unit :=
  modify fun h => { h with session := { h.session with messages := messages } }

def setWaiting (waiting : List (Nat × Nat)) : Action σ Unit :=
  modify fun h => { h with session := { h.session with waiting := waiting } }

def note (entries : List LogEntry) : Action σ Unit :=
  modify fun h => { h with log := h.log ++ entries }

def emit (on : Listener σ) (e : SessionEvent) : Action σ Unit :=
  modify fun h =>
    let held := on h.session e h.held
    { h with held := held, moments := h.moments ++ [⟨e, h.session.messages, held⟩] }

/-- A message with an id of its own. It is not among the messages yet. -/
def newMessage (role : Role) (content : String) (pending : Bool) : Action σ ChatMessage :=
  modifyGet fun h =>
    (⟨h.session.nextId, role, content, pending⟩,
      { h with session := { h.session with nextId := h.session.nextId + 1 } })

def newRequest : Action σ Nat :=
  modifyGet fun h =>
    (h.session.nextRequest,
      { h with session := { h.session with nextRequest := h.session.nextRequest + 1 } })

/-- The segments of a text. What the reader finds is logged. -/
def parse (text : String) : Action σ (List Segment) := do
  let segments := (← session).parse text
  note segments.log
  return segments.value

variable (on : Listener σ)

def append (m : ChatMessage) : Action σ Unit := do
  setMessages ((← session).messages ++ [m])
  emit on (.added m)

def add (role : Role) (content : String) (pending : Bool) : Action σ ChatMessage := do
  let m ← newMessage role content pending
  append on m
  return m

/-- Removes the message with an id. Gives whether there was one. -/
def remove (id : Nat) : Action σ Bool := do
  match (← session).messages.find? (·.id = id) with
  | none => return false
  | some m =>
    setMessages ((← session).messages.eraseP (·.id = id))
    emit on (.removed m)
    return true

def clear : Action σ Unit := do
  setMessages []
  setWaiting []
  emit on .cleared

def begin (text : String) : Action σ Begun := do
  if isBlankText text then return .blank
  let _ ← add on .user text false
  match (← session).provider with
  | none =>
    let notice ← add on .system ChatSession.missingKeyText false
    return .answered (← parse notice.content)
  | some p =>
    let request ← newRequest
    let placeholder ← add on .assistant ChatSession.thinkingText true
    setWaiting ((← session).waiting ++ [(request, placeholder.id)])
    note [⟨.debug, "Chat", "Request " ++ toString request ++ " sent to " ++ p.service.name⟩]
    return .waiting ⟨request, placeholder.id, text⟩
      (p.parameters (Provider.question text none) { model := (← session).model })

/-- The message that the outcome of a request leads to. Errors other than a failed request pass
through. -/
def reply (t : Ticket) (outcome : Except AskError String) : Action σ ChatMessage := do
  match ChatSession.replyTo t.request outcome with
  | .error e => throw e
  | .ok (role, content, entry) =>
    note [entry]
    newMessage role content false

def withdraw (t : Ticket) : Action σ Unit := do
  let waiting := (← session).waiting
  setWaiting (waiting.filter (·.1 ≠ t.request))
  let _ ← remove on ((waiting.lookup t.request).getD t.placeholder)

/-- Ends a waiting send with the outcome of its request. Whatever that is, the placeholder goes
away. -/
def finish (t : Ticket) (outcome : Except AskError String) : Action σ (List Segment) := do
  let m ← try reply t outcome finally withdraw on t
  append on m
  parse m.content

end Action

inductive Call
  | begin (text : String)
  | finish (t : Ticket) (outcome : Except AskError String)
  | add (role : Role) (content : String) (pending : Bool)
  | remove (id : Nat)
  | clear

def Call.action (on : Listener σ) : Call → Action σ Unit
  | begin text => discard (Action.begin on text)
  | finish t outcome => discard (Action.finish on t outcome)
  | add role content pending => discard (Action.add on role content pending)
  | remove id => discard (Action.remove on id)
  | clear => Action.clear on

/-- The call as a step of a session. What it gives, or how it fails, is left out. -/
def Call.step (s : ChatSession) : Call → SessionStep Unit
  | begin text => (s.begin text).unvalued
  | finish t outcome => (s.finish t outcome).unvalued
  | add role content pending => (s.add role content pending).unvalued
  | remove id => (s.remove id).unvalued
  | clear => s.clear

/-- What is left after a call, whether it failed or not. -/
def after (h : Heard σ) (on : Listener σ) (c : Call) : Heard σ :=
  match (c.action on).run h with
  | .ok _ h => h
  | .error _ h => h

def run (h : Heard σ) (on : Listener σ) (calls : List Call) : Heard σ :=
  calls.foldl (fun h c => h.after on c) h

end Heard

end FencedChat
