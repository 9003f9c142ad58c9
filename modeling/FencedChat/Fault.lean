import FencedChat.Value

/-!
Faults that reach the user. Each has a code, a text and a context, and is shown as one line or as a
table for the log.
-/

namespace FencedChat

inductive Fault
  | general (code : String) (detail : Option String) (context : Listing Value)
  /-- An edit without an open document. -/
  | noActiveDocument (operation : String)
  /-- A failed request to a model provider. -/
  | providerRequest (detail : String) (provider : Option String)
  /-- A provider that cannot be set up. -/
  | providerConfig (detail : String) (provider : String)

namespace Fault

def noActiveDocumentText : String := "No file is currently open. Please open a file first."

def code : Fault → String
  | general code _ _ => code
  | noActiveDocument _ => "NO_ACTIVE_DOCUMENT"
  | providerRequest _ _ => "PROVIDER_REQUEST_FAILED"
  | providerConfig _ _ => "PROVIDER_NOT_CONFIGURED"

def detail : Fault → Option String
  | general _ detail _ => detail
  | noActiveDocument _ => some noActiveDocumentText
  | providerRequest detail _ => some detail
  | providerConfig detail _ => some detail

/-- A fault with a context of its own, which cannot hold entries for the parts of the fault
itself. -/
def make? (code : String) (detail : Option String) (context : Listing Value) : Option Fault :=
  if context.any fun (k, _) => ["self", "code", "message"].contains k then none
  else some (general code detail context)

/-- The detail, unless it is missing or empty. -/
def shownDetail (f : Fault) : Option String := f.detail.filter (· ≠ "")

/-- An empty provider name counts as none. -/
def context : Fault → Listing Value
  | general _ _ context => context
  | noActiveDocument operation => [("operation", .text operation)]
  | providerRequest _ (some provider) =>
    if provider = "" then [] else [("provider", .text provider)]
  | providerRequest _ none => []
  | providerConfig _ provider => [("provider", .text provider)]

def formatted (f : Fault) : String :=
  let head := "[" ++ f.code ++ "]"
  let head := match f.shownDetail with
    | some d => head ++ " " ++ d
    | none => head
  if f.context.isEmpty then head
  else head ++ " " ++ ", ".intercalate (f.context.map fun (k, v) => k ++ "=" ++ v.display)

/-- The text of the fault. A failed request shows its detail alone. -/
def message (f : Fault) : String :=
  match f with
  | providerRequest _ _ => f.shownDetail.getD f.code
  | _ => f.formatted

def table (f : Fault) : Listing Value :=
  let entries := f.context.foldl (fun l (k, v) => Listing.put k v l) [("code", .text f.code)]
  match f.shownDetail with
  | some d => Listing.put "message" (.text d) entries
  | none => entries

def tableText (f : Fault) : String := (Value.table f.table).display

end Fault

end FencedChat
