import FencedChat.Screen.StyledText
import FencedChat.Session

/-!
The view of a chat. It follows the messages of the session by their events, and the button of each
code block says whether the block belongs to the open document.
-/

namespace FencedChat

inductive ShownPart
  | prose (text : StyledText)
  | code (block : CodeBlock) (addLabel : String)
  deriving DecidableEq, Repr

namespace ShownPart

def ofPart (active : Option String) : MessagePart → ShownPart
  | .prose t => prose t
  | .code b _ => code b (Html.addLabel b active)

def relabel (active : Option String) : ShownPart → ShownPart
  | prose t => prose t
  | code b _ => code b (Html.addLabel b active)

@[simp] theorem relabel_ofPart (active other : Option String) (p : MessagePart) :
    (ofPart other p).relabel active = ofPart active p := by cases p <;> rfl

def block? : ShownPart → Option CodeBlock
  | prose _ => none
  | code b _ => some b

end ShownPart

structure ShownMessage where
  message : ChatMessage
  parts : List ShownPart
  deriving DecidableEq, Repr

namespace ShownMessage

def header (m : ShownMessage) : String :=
  match m.message.role with
  | .user => "> You"
  | .assistant => "< Assistant"
  | .system => "! System"

def blocks (m : ShownMessage) : List CodeBlock := m.parts.filterMap ShownPart.block?

end ShownMessage

structure ChatView where
  /-- The name of the open document. -/
  active : Option String
  messages : List ShownMessage
  subtitle : String
  deriving DecidableEq, Repr

namespace ChatView

def emptySubtitle : String := "Conversation history"

def empty (active : Option String) : ChatView := ⟨active, [], emptySubtitle⟩

def counted (v : ChatView) : ChatView :=
  { v with subtitle := toString v.messages.length ++ " messages" }

def ids (v : ChatView) : List Nat := v.messages.map (·.message.id)

def blocks (v : ChatView) : List CodeBlock := v.messages.flatMap (·.blocks)

def add (v : ChatView) (m : ChatMessage) (segments : List Segment) : ChatView :=
  let shown : ShownMessage := ⟨m, (MessagePart.group segments).map (ShownPart.ofPart v.active)⟩
  { v with messages := v.messages ++ [shown] }.counted

def remove (v : ChatView) (id : Nat) : ChatView :=
  if v.ids.contains id then
    { v with messages := v.messages.eraseP (·.message.id = id) }.counted
  else v

def clear (v : ChatView) : ChatView := { v with messages := [], subtitle := emptySubtitle }

def setActive (v : ChatView) (active : Option String) : ChatView :=
  { v with
    active := active
    messages := v.messages.map fun m => { m with parts := m.parts.map (ShownPart.relabel active) } }

@[simp] theorem ids_setActive (v : ChatView) (active : Option String) :
    (v.setActive active).ids = v.ids := by
  simp [setActive, ids]

@[simp] theorem ids_clear (v : ChatView) : v.clear.ids = [] := rfl

@[simp] theorem ids_add (v : ChatView) (m : ChatMessage) (segments : List Segment) :
    (v.add m segments).ids = v.ids ++ [m.id] := by
  simp [add, counted, ids]

end ChatView

end FencedChat
