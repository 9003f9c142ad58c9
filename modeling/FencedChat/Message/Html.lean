import FencedChat.Message.Reader

/-!
Messages as HTML. All text of the message is escaped. The name of the open document decides the
label of the button that adds a block to it.
-/

namespace FencedChat.Html

def addLabel (b : CodeBlock) (active : Option String) : String :=
  if active = some b.filename then "Add to Current File" else "Add to File"

def codeBlock (b : CodeBlock) (markup : String) (active : Option String) : String :=
  "<div class=\"code-block\"><div class=\"code-header\"><span class=\"file-name\">"
    ++ Markup.escape b.filename
    ++ "</span><button class=\"add-to-file-btn\" data-file-name=\""
    ++ Markup.escapeAttribute b.filename ++ "\">" ++ addLabel b active
    ++ "</button></div><pre><code class=\"language-" ++ Markup.escapeAttribute b.language ++ "\">"
    ++ markup ++ "</code></pre></div>"

def segment (active : Option String) : Segment → String
  | .text s => Markup.escape s
  | .inlineCode code => "<span class=\"inline-code\">" ++ Markup.escape code ++ "</span>"
  | .lineBreak => "<br>"
  | .codeBlock b markup => codeBlock b markup active

def segments (active : Option String) (xs : List Segment) : String :=
  String.join (xs.map (segment active))

def message (r : MessageReader) (text : String) (active : Option String) : Logged String := do
  return segments active (← r.read text)

end FencedChat.Html
