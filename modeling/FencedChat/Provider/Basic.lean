import FencedChat.Fault
import FencedChat.Provider.Prompt
import FencedChat.Provider.Usage

/-!
Model providers. A service says how a request is sent and how a reply is read; a provider is a
service with a model. Errors of the service itself become one fault, and all others pass through.
-/

namespace FencedChat

inductive CallError
  /-- The service refused or failed. -/
  | api (message : String)
  | badValue (message : String)
  | runtime (message : String)
  | missingKey (key : String)
  deriving DecidableEq, Repr

def CallError.text : CallError → String
  | api message => message
  | badValue message => message
  | runtime message => message
  | missingKey key => quoted key

inductive ReplyError
  /-- A part of the reply is missing. -/
  | missingPart
  /-- A part of the reply cannot be used as what it should be. -/
  | wrongKind
  /-- A result is not of the kind that a completion holds. -/
  | invalid
  deriving DecidableEq, Repr

inductive AskError
  | fault (f : Fault)
  | raised (e : CallError)
  | reply (e : ReplyError)

def ReplyError.text : ReplyError → String
  | missingPart => "a part of the reply is missing"
  | wrongKind => "a part of the reply is of the wrong kind"
  | invalid => "the reply holds no text"

def AskError.text : AskError → String
  | fault f => f.message
  | raised e => e.text
  | reply e => e.text

structure Completion where
  text : String
  model : String
  usage : Option TokenUsage
  deriving DecidableEq, Repr

structure Request where
  messages : List PromptMessage
  model : String
  temperature : Value
  maxTokens : Value
  extra : Listing Value

/-- What a request may set. -/
structure RequestOptions where
  model : Option String := none
  temperature : Value := .real 0.7
  maxTokens : Value := .null
  extra : Listing Value := []

/-- How a kind of provider is talked to. -/
structure Service where
  name : String
  label : String
  /-- The parameters of the call that a request leads to. -/
  parameters : Request → Listing Value
  /-- Reads the reply to a request for a model. -/
  completion : String → Value → Except ReplyError Completion

/-- A model provider: a service and the model to use unless a request names another. -/
structure Provider where
  service : Service
  model : String

inductive ClientCall
  | create (parameters : Listing Value)
  | close

namespace Value

def part (v : Value) (name : String) : Except ReplyError Value :=
  match v with
  | table entries =>
    match List.lookup name entries with
    | some w => .ok w
    | none => .error .missingPart
  | _ => .error .missingPart

/-- Whether a value counts as present: it is not null, not false, not zero and not empty. A table
counts even if it is empty. -/
def isPresent : Value → Bool
  | null => false
  | bool b => b
  | int n => n != 0
  | real x => x != 0
  | text s => s != ""
  | list xs => !xs.isEmpty
  | table _ => true

def orElse (v w : Value) : Value := if v.isPresent then v else w

end Value

def Completion.ofValues (text model : Value) (usage : Option TokenUsage) :
    Except ReplyError Completion :=
  match text, model with
  | .text t, .text m => .ok ⟨t, m, usage⟩
  | _, _ => .error .invalid

namespace Provider

/-- The request that messages and options make. An empty model name stands for none. -/
def request (p : Provider) (messages : List PromptMessage) (o : RequestOptions) : Request :=
  let model := match o.model with
    | none => p.model
    | some m => if m = "" then p.model else m
  ⟨messages, model, o.temperature, o.maxTokens, o.extra⟩

def parameters (p : Provider) (messages : List PromptMessage) (o : RequestOptions) :
    Listing Value :=
  p.service.parameters (p.request messages o)

def noResponse (p : Provider) : String := "[" ++ p.service.label ++ "] No response."

def settle (p : Provider) (model : String) : Except CallError Value → Except AskError Completion
  | .error (.api message) =>
    .error (.fault (.providerRequest (p.service.label ++ " API error: " ++ message)
      (some p.service.name)))
  | .error e => .error (.raised e)
  | .ok reply =>
    match p.service.completion model reply with
    | .error e => .error (.reply e)
    | .ok c => .ok (if c.text = "" then { c with text := p.noResponse } else c)

/-- What a request leads to: the calls made and the outcome. -/
structure Exchange (α : Type) where
  calls : List ClientCall
  outcome : Except AskError α

/-- Sends messages. The client answers a call by its parameters. -/
def chat (p : Provider) (messages : List PromptMessage) (o : RequestOptions)
    (client : Listing Value → Except CallError Value) : Exchange Completion :=
  let r := p.request messages o
  let parameters := p.service.parameters r
  ⟨[.create parameters], p.settle r.model (client parameters)⟩

/-- The messages of a single question, behind a system text unless that is empty. -/
def question (prompt : String) (system : Option String) : List PromptMessage :=
  match system with
  | none => [⟨.user, prompt⟩]
  | some s => if s = "" then [⟨.user, prompt⟩] else [⟨.system, s⟩, ⟨.user, prompt⟩]

/-- The answer to a single question: the text of the reply without the blanks around it. -/
def complete (p : Provider) (prompt : String) (model system : Option String)
    (client : Listing Value → Except CallError Value) : Exchange String :=
  let e := p.chat (question prompt system) { model := model } client
  ⟨e.calls, e.outcome.map fun c => trim c.text⟩

def contains (s part : List Char) : Bool :=
  part.isPrefixOf s || match s with
    | [] => false
    | _ :: r => contains r part

/-- Runs a body and closes the provider behind it, whatever the outcome. An error of closing takes
the place of the outcome, unless all it says is that the event loop is gone. -/
def scope {α : Type} (body : Except CallError α) (close : Except CallError Unit) :
    Except CallError α :=
  match close with
  | .ok () => body
  | .error (.runtime message) =>
    if contains message.toList "Event loop is closed".toList then body
    else .error (.runtime message)
  | .error e => .error e

end Provider

end FencedChat
