import FencedChat.Provider.Basic

/-!
The services of OpenAI and Anthropic: the parameters of their calls and the form of their replies.
-/

namespace FencedChat.Service

def putAll (base entries : Listing Value) : Listing Value :=
  entries.foldl (fun l (k, v) => Listing.put k v l) base

/-- The first member of what should be a list. An absent list has none. -/
def first (v : Value) : Except ReplyError Value :=
  if v.isPresent then
    match v with
    | .list (x :: _) => .ok x
    | .text s => .ok (.text (String.ofList (s.toList.take 1)))
    | _ => .error .wrongKind
  else .ok .null

def usage (reply : Value) (input output : String) : Except ReplyError (Option TokenUsage) := do
  let u ← reply.part "usage"
  if u.isPresent then
    let i ← u.part input
    let o ← u.part output
    match TokenUsage.ofValues? i o with
    | some t => return some t
    | none => throw .invalid
  else return none

def openAI : Service where
  name := "openai"
  label := "OpenAI"
  parameters r :=
    let base := putAll
      [("model", .text r.model), ("messages", .list (r.messages.map PromptMessage.wire)),
        ("temperature", r.temperature)] r.extra
    match r.maxTokens with
    | .null => base
    | n => Listing.put "max_tokens" n base
  completion model reply := do
    let choice ← first (← reply.part "choices")
    let counts ← usage reply "prompt_tokens" "completion_tokens"
    let content ←
      if choice.isPresent then
        let message ← choice.part "message"
        if message.isPresent then message.part "content" else pure .null
      else pure .null
    let named ← reply.part "model"
    Completion.ofValues (content.orElse (.text "")) (named.orElse (.text model)) counts

def blockText : Value → Except ReplyError String
  | .table entries =>
    match List.lookup "text" entries with
    | none => .ok ""
    | some (.text s) => .ok s
    | some _ => .error .wrongKind
  | _ => .ok ""

def joinedText : Value → Except ReplyError String
  | .list blocks => (blocks.mapM blockText).map String.join
  | .text _ => .ok ""
  | _ => .error .wrongKind

def systemText (messages : List PromptMessage) : String :=
  "\n\n".intercalate ((messages.filter (·.role = .system)).map (·.content))

/-- Messages of Anthropic. System turns are lifted out of the list of messages, and a reply needs a
bound on its length. -/
def anthropic : Service where
  name := "anthropic"
  label := "Claude"
  parameters r :=
    let base := putAll
      [("model", .text r.model),
        ("messages", .list ((r.messages.filter (·.role ≠ .system)).map PromptMessage.wire)),
        ("temperature", r.temperature), ("max_tokens", r.maxTokens.orElse (.int 4096))] r.extra
    let system := systemText r.messages
    if system = "" then base else Listing.put "system" (.text system) base
  completion model reply := do
    let counts ← usage reply "input_tokens" "output_tokens"
    let text ← joinedText (← reply.part "content")
    let named ← reply.part "model"
    Completion.ofValues (.text text) (named.orElse (.text model)) counts

end FencedChat.Service
