import FencedChat.Message.Html
import FencedChat.Provider.Basic

/-!
Chat sessions: the messages in order of arrival, and the sends that wait for the provider. Each
waiting send shows a placeholder of its own, which goes away when its reply arrives, whatever that
is.
-/

namespace FencedChat

inductive Role
  | user
  | assistant
  | system
  deriving DecidableEq, Repr

namespace Role

def name : Role → String
  | user => "user"
  | assistant => "assistant"
  | system => "system"

def ofName? (s : String) : Option Role := [user, assistant, system].find? (·.name == s)

@[simp] theorem ofName?_name (r : Role) : ofName? r.name = some r := by cases r <;> decide

def unknownText (s : String) : String := quoted s ++ " is not a valid Role"

end Role

structure ChatMessage where
  id : Nat
  role : Role
  content : String
  /-- Whether the message stands for a reply that has not arrived. -/
  pending : Bool
  deriving DecidableEq, Repr

inductive SessionEvent
  | added (m : ChatMessage)
  | removed (m : ChatMessage)
  | cleared
  deriving DecidableEq, Repr

/-- A send that waits for the provider. -/
structure Ticket where
  request : Nat
  placeholder : Nat
  text : String
  deriving DecidableEq, Repr

structure ChatSession where
  provider : Option Provider
  reader : MessageReader
  /-- The model to ask for, in place of that of the provider. -/
  model : Option String
  messages : List ChatMessage
  /-- The request numbers of the waiting sends with the ids of their placeholders. -/
  waiting : List (Nat × Nat)
  nextRequest : Nat
  nextId : Nat

structure SessionStep (α : Type) where
  session : ChatSession
  value : α
  events : List SessionEvent
  log : List LogEntry

inductive Begun
  /-- There is nothing to send. -/
  | blank
  /-- The send is answered without a provider. -/
  | answered (segments : List Segment)
  /-- The provider is asked, by a call with the given parameters. -/
  | waiting (t : Ticket) (parameters : Listing Value)

/-- The member of a list at a position, counted from the end if the position is negative. -/
def memberAt? {α : Type} (xs : List α) (i : Int) : Option α :=
  let i := if i < 0 then i + xs.length else i
  if i < 0 then none else xs[i.toNat]?

namespace ChatSession

def thinkingText : String := "Thinking..."

def missingKeyText : String := "Please enter your API key first."

def start (provider : Option Provider) (model : Option String) : ChatSession :=
  ⟨provider, .standard, model, [], [], 1, 1⟩

/-- The requests that wait for the provider. -/
def pendingRequests (s : ChatSession) : List Nat := s.waiting.map (·.1)

def add (s : ChatSession) (role : Role) (content : String) (pending : Bool) :
    SessionStep ChatMessage :=
  let m : ChatMessage := ⟨s.nextId, role, content, pending⟩
  ⟨{ s with messages := s.messages ++ [m], nextId := s.nextId + 1 }, m, [.added m], []⟩

/-- Removes the message with an id. Gives whether there was one. -/
def remove (s : ChatSession) (id : Nat) : SessionStep Bool :=
  match s.messages.find? (·.id = id) with
  | none => ⟨s, false, [], []⟩
  | some m => ⟨{ s with messages := s.messages.eraseP (·.id = id) }, true, [.removed m], []⟩

/-- Drops all messages. Replies that have not arrived will still be appended. -/
def clear (s : ChatSession) : SessionStep Unit :=
  ⟨{ s with messages := [], waiting := [] }, (), [.cleared], []⟩

def parse (s : ChatSession) (text : String) : Logged (List Segment) := s.reader.read text

def begin (s : ChatSession) (text : String) : SessionStep Begun :=
  if isBlankText text then ⟨s, .blank, [], []⟩
  else
    let user := s.add .user text false
    match s.provider with
    | none =>
      let notice := user.session.add .system missingKeyText false
      let segments := s.parse missingKeyText
      ⟨notice.session, .answered segments.value, user.events ++ notice.events, segments.log⟩
    | some p =>
      let request := s.nextRequest
      let placeholder := user.session.add .assistant thinkingText true
      let session := placeholder.session
      ⟨{ session with
          waiting := session.waiting ++ [(request, placeholder.value.id)]
          nextRequest := request + 1 },
        .waiting ⟨request, placeholder.value.id, text⟩
          (p.parameters (Provider.question text none) { model := s.model }),
        user.events ++ placeholder.events,
        [⟨.debug, "Chat", "Request " ++ toString request ++ " sent to " ++ p.service.name⟩]⟩

/-- The message that the outcome of a request leads to, with its log entry. Only a failed request
leads to a message; other errors pass through. -/
def replyTo (request : Nat) : Except AskError String → Except AskError (Role × String × LogEntry)
  | .ok text =>
    .ok (.assistant, text, ⟨.debug, "Chat", "Request " ++ toString request ++ " answered (" ++
      toString text.length ++ " chars)"⟩)
  | .error (.fault (.providerRequest detail provider)) =>
    let f := Fault.providerRequest detail provider
    .ok (.system, "Error: " ++ f.message, ⟨.error, "Chat", "Request " ++ toString request ++
      " failed: " ++ f.tableText⟩)
  | .error e => .error e

def withdraw (s : ChatSession) (t : Ticket) : SessionStep Bool :=
  { s with waiting := s.waiting.filter (·.1 ≠ t.request) }.remove
    ((s.waiting.lookup t.request).getD t.placeholder)

/-- Ends a waiting send with the outcome of its request. Gives the segments of the message that is
recorded. -/
def finish (s : ChatSession) (t : Ticket) (outcome : Except AskError String) :
    SessionStep (Except AskError (List Segment)) :=
  let withdrawn := s.withdraw t
  match replyTo t.request outcome with
  | .error e => ⟨withdrawn.session, .error e, withdrawn.events, []⟩
  | .ok (role, content, entry) =>
    let added := withdrawn.session.add role content false
    let segments := s.parse content
    ⟨added.session, .ok segments.value, withdrawn.events ++ added.events, entry :: segments.log⟩

def answerOf (s : ChatSession) (outcome : Except CallError Value) : Except AskError String :=
  match s.provider with
  | none => .error (.reply .missingPart)
  | some p =>
    (p.settle (p.request [] { model := s.model }).model outcome).map fun c => trim c.text

/-- Sends what the user typed to a provider that answers at once. Gives the calls made and the
segments of the answer. -/
def send (s : ChatSession) (text : String) (client : Listing Value → Except CallError Value) :
    SessionStep (List (Listing Value) × Except AskError (List Segment)) :=
  let begun := s.begin text
  match begun.value with
  | .blank => ⟨begun.session, ([], .ok []), begun.events, begun.log⟩
  | .answered segments => ⟨begun.session, ([], .ok segments), begun.events, begun.log⟩
  | .waiting t parameters =>
    let done := begun.session.finish t (s.answerOf (client parameters))
    ⟨done.session, ([parameters], done.value), begun.events ++ done.events, begun.log ++ done.log⟩

/-- The message at a position, counted from the end if the position is negative. -/
def message? (s : ChatSession) (i : Int) : Option ChatMessage := memberAt? s.messages i

def lastBlocks (s : ChatSession) : Logged (List CodeBlock) :=
  match s.messages.reverse.find? fun m => m.role = .assistant && !m.pending with
  | none => return []
  | some m => return Segment.blocks (← s.parse m.content)

def render (s : ChatSession) (m : ChatMessage) (active : Option String) : Logged String :=
  Html.message s.reader m.content active

end ChatSession

end FencedChat
