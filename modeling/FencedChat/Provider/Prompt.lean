import FencedChat.Value

/-!
The turns of a request to a model provider.
-/

namespace FencedChat

inductive PromptRole
  | system
  | user
  | assistant
  deriving DecidableEq, Repr

namespace PromptRole

def name : PromptRole → String
  | system => "system"
  | user => "user"
  | assistant => "assistant"

def ofName? (s : String) : Option PromptRole := [system, user, assistant].find? (·.name == s)

@[simp] theorem ofName?_name (r : PromptRole) : ofName? r.name = some r := by cases r <;> decide

end PromptRole

structure PromptMessage where
  role : PromptRole
  content : String
  deriving DecidableEq, Repr

namespace PromptMessage

def wire (m : PromptMessage) : Value :=
  .table [("role", .text m.role.name), ("content", .text m.content)]

/-- The turn that a table describes. Other entries of the table do not count. -/
def ofTable? (t : Listing Value) : Option PromptMessage :=
  match List.lookup "role" t, List.lookup "content" t with
  | some (.text role), some (.text content) =>
    (PromptRole.ofName? role).map fun r => ⟨r, content⟩
  | _, _ => none

@[simp] theorem ofTable?_wire (m : PromptMessage) :
    ofTable? [("role", .text m.role.name), ("content", .text m.content)] = some m := by
  have h : ("content" == "role") = false := by decide
  simp [ofTable?, List.lookup_cons, h]

end PromptMessage

end FencedChat
