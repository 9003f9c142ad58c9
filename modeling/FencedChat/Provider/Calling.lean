import FencedChat.Provider.Basic

/-!
Requests to a provider, one step after the other: the call of the client, the reading of its reply,
and what becomes of an error. The errors of a client are of any type, the calls made are kept, and
what the client answers may depend on them.
-/

namespace FencedChat

structure Client (ε : Type) where
  /-- Answers a call behind those made before. -/
  answer : List ClientCall → Listing Value → Except ε Value
  /-- The text of an error of the service itself. Other errors are none. -/
  serviceError? : ε → Option String

def CallError.service? : CallError → Option String
  | api message => some message
  | _ => none

namespace Client

def ofAnswers (answers : Listing Value → Except CallError Value) : Client CallError :=
  ⟨fun _ => answers, CallError.service?⟩

inductive Failure (ε : Type)
  | fault (f : Fault)
  | raised (e : ε)
  | reply (e : ReplyError)

def Failure.asked : Failure CallError → AskError
  | fault f => .fault f
  | raised e => .raised e
  | reply e => .reply e

/-- Something done with a client. The calls made so far are kept. -/
abbrev Action (ε : Type) := EStateM (Failure ε) (List ClientCall)

namespace Action

variable {ε : Type} (client : Client ε)

def create (parameters : Listing Value) : Action ε Value := do
  let calls ← get
  set (calls ++ [.create parameters])
  match client.answer calls parameters with
  | .ok reply => return reply
  | .error e => throw (.raised e)

def request (p : Provider) (r : Request) : Action ε Completion := do
  let reply ← create client (p.service.parameters r)
  match p.service.completion r.model reply with
  | .ok c => return c
  | .error e => throw (.reply e)

/-- Sends messages. An error of the service itself becomes a fault, and an empty text the notice
that there is none. -/
def chat (p : Provider) (messages : List PromptMessage) (o : RequestOptions) :
    Action ε Completion := do
  let c ←
    try request client p (p.request messages o)
    catch
      | .raised e =>
        match client.serviceError? e with
        | some message =>
          throw (.fault (.providerRequest (p.service.label ++ " API error: " ++ message)
            (some p.service.name)))
        | none => throw (.raised e)
      | e => throw e
  return if c.text = "" then { c with text := p.noResponse } else c

def complete (p : Provider) (prompt : String) (model system : Option String) : Action ε String := do
  let c ← chat client p (Provider.question prompt system) { model := model }
  return trim c.text

end Action

end Client

end FencedChat
