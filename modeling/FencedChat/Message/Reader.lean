import FencedChat.Extension
import FencedChat.Highlight
import FencedChat.Message.Fence
import FencedChat.Message.Prose

/-!
Reading of chat messages. Every code block is highlighted and named as it is read. A fence that
never closes makes the rest of the message plain text, and the blocks before it are kept.
-/

namespace FencedChat

structure MessageReader where
  highlighter : Highlighter
  resolver : ExtensionResolver

namespace MessageReader

def standard : MessageReader := ⟨.standard, .standard⟩

def block (r : MessageReader) (o : Opening) (body : List Char) : CodeBlock :=
  let tag := if o.tag.isEmpty then none else some (String.ofList o.tag)
  let declared := (firstWord? o.hint).map String.ofList
  let language := tag.getD "text"
  { tag := tag
    declaredName := declared
    code := String.ofList (Fence.withoutLastNewline body)
    extension := r.resolver.resolve (some language)
    filename := declared.getD (r.resolver.defaultFilename (some language)) }

/-- The segments of a text that follows the character `prev` and starts on the given line. -/
def readFrom (r : MessageReader) (prev : Option Char) (line : Nat) (s : List Char) :
    Logged (List Segment) :=
  match _h : Fence.findOpening? prev [] s with
  | none => return Prose.segments s
  | some o =>
    let line := line + o.before.count '\n'
    match _h : Fence.splitAtMarker? [] o.body with
    | none => do
      .entry .info "Parser"
        ("[UNTERMINATED_FENCE] fence on line " ++ toString line ++
          " never closes, rendering the rest of the message as plain text")
      return Prose.segments o.before ++ Prose.lines (o.line ++ '\n' :: o.body)
    | some (body, rest) => do
      let block := r.block o body
      let markup ← r.highlighter.render block.code (some block.language)
      (fun others => Prose.segments o.before ++ .codeBlock block markup :: others)
        <$> r.readFrom (some '`') (line + 1 + body.count '\n') rest
termination_by s.length
decreasing_by
  have := Fence.length_findOpening? ‹_›
  have := Fence.length_splitAtMarker? ‹_›
  omega

/-- The segments of a message, in order. -/
def read (r : MessageReader) (text : String) : Logged (List Segment) :=
  r.readFrom none 1 text.toList

def blocks (r : MessageReader) (text : String) : List CodeBlock :=
  Segment.blocks (r.read text).value

end MessageReader

end FencedChat
