import FencedChat.Provider.Service
import Mathlib.Data.List.Induction

/-!
The parameters of a call, by their names. Those that a service sets itself are what the request
says, and all others are the further options of the request.
-/

namespace FencedChat

namespace Service

end Service

inductive Vendor
  | openAI
  | anthropic
  deriving DecidableEq, Repr

namespace Vendor

def service : Vendor → Service
  | openAI => .openAI
  | anthropic => .anthropic

/-- The turns that stay in the list of messages. -/
def listed : Vendor → List PromptMessage → List PromptMessage
  | openAI, messages => messages
  | anthropic, messages => messages.filter (·.role ≠ .system)

variable (v : Vendor) (r : Request)

end Vendor

end FencedChat
