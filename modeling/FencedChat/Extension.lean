import FencedChat.Listing
import FencedChat.Text.Blank
import FencedChat.Text.Case

/-!
File extensions by language tag. Every tag has an extension, and so has no tag at all.
-/

namespace FencedChat

def usualExtension : String := "txt"

def extensionTable : Listing String :=
  [("text", "txt"), ("txt", "txt"), ("plaintext", "txt"), ("javascript", "js"), ("js", "js"),
   ("jsx", "jsx"), ("node", "js"), ("mjs", "mjs"), ("typescript", "ts"), ("ts", "ts"),
   ("tsx", "tsx"), ("html", "html"), ("htm", "html"), ("xml", "xml"), ("svg", "svg"),
   ("css", "css"), ("scss", "scss"), ("less", "less"), ("python", "py"), ("py", "py"),
   ("python3", "py"), ("java", "java"), ("kotlin", "kt"), ("kt", "kt"), ("scala", "scala"),
   ("cpp", "cpp"), ("c++", "cpp"), ("cc", "cpp"), ("cxx", "cpp"), ("hpp", "hpp"), ("c", "c"),
   ("h", "h"), ("csharp", "cs"), ("cs", "cs"), ("c#", "cs"), ("php", "php"), ("ruby", "rb"),
   ("rb", "rb"), ("go", "go"), ("golang", "go"), ("rust", "rs"), ("rs", "rs"), ("swift", "swift"),
   ("r", "r"), ("lua", "lua"), ("perl", "pl"), ("sql", "sql"), ("postgresql", "sql"),
   ("postgres", "sql"), ("mysql", "sql"), ("sqlite", "sql"), ("bash", "sh"), ("shell", "sh"),
   ("sh", "sh"), ("zsh", "sh"), ("console", "sh"), ("powershell", "ps1"), ("ps1", "ps1"),
   ("yaml", "yml"), ("yml", "yml"), ("toml", "toml"), ("ini", "ini"), ("json", "json"),
   ("jsonc", "json"), ("json5", "json5"), ("markdown", "md"), ("md", "md"),
   ("dockerfile", "Dockerfile"), ("makefile", "mk")]

def extensionKey (tag : String) : String := lower (trim tag)

def extensionOf : Option String → String
  | none => usualExtension
  | some tag =>
    if tag = "" then usualExtension
    else (List.lookup (extensionKey tag) extensionTable).getD usualExtension

/-- Extensions by tag, after further entries were put into the table of known tags. -/
structure ExtensionResolver where
  table : Listing String

namespace ExtensionResolver

def withoutLeadingDots (s : String) : String := String.ofList (s.toList.dropWhile (· == '.'))

/-- The known tags with the given entries put over them. An entry with an empty tag or an empty
extension is passed over. -/
def ofOverrides (overrides : Listing String) : ExtensionResolver :=
  ⟨overrides.foldl
    (fun table (tag, extension) =>
      if tag = "" ∨ extension = "" then table
      else Listing.put (extensionKey tag) (withoutLeadingDots extension) table)
    extensionTable⟩

def standard : ExtensionResolver := ofOverrides []

/-- The extension of a tag. An entry that holds no extension counts as unknown. -/
def resolve (r : ExtensionResolver) : Option String → String
  | none => usualExtension
  | some tag =>
    if tag = "" then usualExtension
    else match List.lookup (extensionKey tag) r.table with
      | none => usualExtension
      | some e => if e = "" then usualExtension else e

def defaultFilename (r : ExtensionResolver) (tag : Option String) : String :=
  let language := match tag with
    | none => "text"
    | some t => if t = "" then "text" else t
  language ++ "." ++ r.resolve (some language)

end ExtensionResolver

end FencedChat
