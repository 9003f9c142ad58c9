/-!
What a chat message consists of: text, inline code, line breaks and fenced code blocks.
-/

namespace FencedChat

structure CodeBlock where
  /-- The tag written behind the opening fence. -/
  tag : Option String
  /-- The filename written behind the tag. -/
  declaredName : Option String
  /-- The text between the fence lines. -/
  code : String
  extension : String
  filename : String
  deriving DecidableEq, Repr

namespace CodeBlock

/-- The language of the block, which is plain text if no tag is written. -/
def language (b : CodeBlock) : String :=
  match b.tag with
  | none => "text"
  | some t => if t = "" then "text" else t

end CodeBlock

/-- One part of a message, in the order of the message. -/
inductive Segment
  /-- Ordinary text without line breaks. -/
  | text (s : String)
  /-- Code between single backticks, which is shown but not inserted anywhere. -/
  | inlineCode (code : String)
  | lineBreak
  /-- A code block and its markup. -/
  | codeBlock (block : CodeBlock) (markup : String)
  deriving DecidableEq, Repr

namespace Segment

def block? : Segment → Option CodeBlock
  | codeBlock b _ => some b
  | _ => none

def blocks (segments : List Segment) : List CodeBlock := segments.filterMap block?

@[simp] theorem blocks_append (xs ys : List Segment) :
    blocks (xs ++ ys) = blocks xs ++ blocks ys := by
  simp [blocks]

end Segment

end FencedChat
