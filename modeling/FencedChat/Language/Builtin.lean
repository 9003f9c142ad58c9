import FencedChat.Grammar.Registry
import FencedChat.Language.Data
import FencedChat.Language.Managed
import FencedChat.Language.Page
import FencedChat.Language.Script
import FencedChat.Language.System

/-!
The languages that are known without further registration.
-/

namespace FencedChat.Language

def builtin : List Grammar :=
  [python, javascript, typescript, java, c, cpp, csharp, go, rust, html, css, bash, sql, json, yaml]

def registry : Registry := .ofList builtin

end FencedChat.Language
