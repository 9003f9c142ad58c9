import FencedChat.Provider.Service
import FencedChat.Text.Blank
import FencedChat.Text.Case

/-!
Setting up a provider, by name or from the variables of the environment. A missing key is no error:
the chat then answers with a reminder.
-/

namespace FencedChat

structure ProviderConfig where
  apiKey : Option String := none
  model : Option String := none
  baseUrl : Option String := none
  deriving DecidableEq, Repr

def openAIModel : String := "gpt-4o-mini"

def anthropicModel : String := "claude-sonnet-4-20250514"

namespace Provider

/-- A service and its usual model by name. Claude is a second name of Anthropic. -/
def service? : String → Option (Service × String)
  | "openai" => some (Service.openAI, openAIModel)
  | "anthropic" => some (Service.anthropic, anthropicModel)
  | "claude" => some (Service.anthropic, anthropicModel)
  | _ => none

/-- The provider of a name, whatever its case and the blanks around it. It needs a key. -/
def make? (name : String) (c : ProviderConfig) : Except Fault Provider :=
  let key := lower (trim name)
  match service? key with
  | none =>
    .error (.providerConfig
      ("Unsupported provider: " ++ name ++ ". Supported providers: 'openai', 'anthropic'") name)
  | some (service, model) =>
    if (c.apiKey.getD "") = "" then
      .error (.providerConfig (service.label ++ " provider requires 'api_key' in config") key)
    else .ok ⟨service, c.model.getD model⟩

end Provider

inductive SetupNotice
  | unknownProvider (name : String)
  | missingKey (key : String)
  | refused (detail : String)
  deriving DecidableEq, Repr

namespace SetupNotice

def markup : SetupNotice → String
  | unknownProvider name => "[red]Error: Unknown LLM provider: " ++ name ++ "[/red]"
  | missingKey key =>
    "[yellow]Warning: " ++ key ++ " not set, chat replies disabled[/yellow]"
  | refused detail => "[red]Error: " ++ detail ++ "[/red]"

end SetupNotice

abbrev Environment := String → Option String

namespace Environment

def providerName (env : Environment) : String :=
  lower (trim ((env "CODEPANE_PROVIDER").getD "openai"))

def variablesOf? : String → Option (String × String × String)
  | "openai" => some ("OPENAI_API_KEY", "OPENAI_CHAT_MODEL", openAIModel)
  | "anthropic" => some ("ANTHROPIC_API_KEY", "ANTHROPIC_MODEL", anthropicModel)
  | "claude" => some ("ANTHROPIC_API_KEY", "ANTHROPIC_MODEL", anthropicModel)
  | _ => none

/-- The provider that the environment chooses, or why there is none. -/
def provider (env : Environment) : Except SetupNotice Provider :=
  let name := env.providerName
  match variablesOf? name with
  | none => .error (.unknownProvider name)
  | some (key, model, usual) =>
    let apiKey := (env key).getD ""
    if apiKey = "" then .error (.missingKey key)
    else
      match Provider.make? name
          { apiKey := some apiKey, model := some ((env model).getD usual) } with
      | .ok p => .ok p
      | .error f => .error (.refused (f.detail.getD "None"))

end Environment

end FencedChat
