import FencedChat.Language.Literal

/-!
Grammars of JavaScript, TypeScript, Python and the shell.
-/

namespace FencedChat.Language

open Pattern

def javascriptKeywords : List String :=
  ["const", "let", "var", "function", "return", "if", "else", "for", "while", "do", "switch",
   "case", "break", "continue", "class", "import", "export", "default", "async", "await", "try",
   "catch", "finally", "throw", "new", "this", "super", "extends", "static", "of", "in", "typeof",
   "instanceof", "delete", "void", "yield", "from", "as", "null", "undefined", "true", "false"]

def javascriptBuiltins : List String :=
  ["console", "document", "window", "Math", "Date", "Array", "Object", "String", "Number",
   "Boolean", "Promise", "fetch", "JSON", "localStorage", "sessionStorage", "require", "module",
   "Map", "Set", "Error", "setTimeout", "setInterval"]

def typescriptKeywords : List String :=
  javascriptKeywords ++
  ["interface", "type", "enum", "namespace", "declare", "implements", "public", "private",
   "protected", "readonly", "abstract", "keyof", "satisfies"]

def typescriptBuiltins : List String :=
  javascriptBuiltins ++
  ["string", "number", "boolean", "any", "unknown", "never", "Record", "Partial", "Readonly",
   "Pick", "Omit"]

def pythonKeywords : List String :=
  ["False", "None", "True", "and", "as", "assert", "async", "await", "break", "class", "continue",
   "def", "del", "elif", "else", "except", "finally", "for", "from", "global", "if", "import",
   "in", "is", "lambda", "nonlocal", "not", "or", "pass", "raise", "return", "try", "while",
   "with", "yield"]

def pythonBuiltins : List String :=
  ["abs", "all", "any", "bool", "bytes", "callable", "chr", "classmethod", "dict", "dir",
   "enumerate", "filter", "float", "format", "frozenset", "getattr", "hasattr", "hash", "id",
   "input", "int", "isinstance", "issubclass", "iter", "len", "list", "map", "max", "min", "next",
   "object", "open", "ord", "print", "property", "range", "repr", "reversed", "round", "self",
   "set", "setattr", "slice", "sorted", "staticmethod", "str", "sum", "super", "tuple", "type",
   "vars", "zip", "Exception", "ValueError", "TypeError", "KeyError", "IndexError", "RuntimeError",
   "StopIteration"]

def bashKeywords : List String :=
  ["if", "then", "else", "elif", "fi", "for", "while", "until", "do", "done", "case", "esac", "in",
   "function", "select", "return", "local", "export", "readonly", "declare"]

def bashBuiltins : List String :=
  ["echo", "printf", "cd", "pwd", "read", "source", "exit", "set", "unset", "test", "shift",
   "trap", "eval", "exec", "alias", "cat", "grep", "sed", "awk", "ls", "mkdir", "rm", "cp", "mv",
   "chmod", "curl", "sudo"]

def javascript : Grammar :=
  .ofRules "javascript"
    (commentRules ++ [doubleQuotedRule, singleQuotedRule, backtickQuotedRule, numberRule,
      keywordRule javascriptKeywords,
      builtinRule javascriptBuiltins,
      operatorRule])
    ["js", "jsx", "node", "mjs"]

def typescript : Grammar :=
  .ofRules "typescript"
    (commentRules ++ [doubleQuotedRule, singleQuotedRule, backtickQuotedRule, numberRule,
      keywordRule typescriptKeywords,
      builtinRule typescriptBuiltins,
      operatorRule])
    ["ts", "tsx"]

def literalPrefix : Pattern :=
  optional (group false (all [notAfter .word, between 1 2 (.chars "rRbBuUfF")]))

def tripleQuoted : Pattern :=
  all [literalPrefix, group false (oneOf
    [all [text "\"\"\"", anything, group false (oneOf [text "\"\"\"", textEnd])],
     all [text "'''", anything, group false (oneOf [text "'''", textEnd])]])]

def prefixedQuoted : Pattern :=
  all [literalPrefix, group false (oneOf [doubleQuoted, singleQuoted])]

def python : Grammar :=
  .ofRules "python"
    [⟨.comment, all [text "#", star notNewline], Priority.lineComment,
       Category.comment_ne_plain, by decide, by decide⟩,
     ⟨.string, tripleQuoted, Priority.string, Category.string_ne_plain, by decide, by decide⟩,
     ⟨.string, prefixedQuoted, Priority.string, Category.string_ne_plain, by decide, by decide⟩,
     numberRule,
     keywordRule pythonKeywords,
     builtinRule pythonBuiltins,
     operatorRule]
    ["py", "python3"]

def bashVariable : Pattern :=
  all [text "$", group false (oneOf
    [all [text "\x7b", star (.butChars "\x7d\n"), optional (text "\x7d")],
     all [set (.of (CharSet.letters ++ [.char '_'])), star .word],
     set (.of [.range '0' '9', .char '@', .char '#', .char '?', .char '*', .char '!', .char '$',
       .char '-'])])]

/-- Single quotes of the shell know no escapes. -/
def bashSingleQuoted : Pattern := all [text "'", star (.butChars "'"), optional (text "'")]

def bashNumber : Pattern :=
  all [notAfter (.of [.word, .char '.', .char '$', .char '-']), plus .digit,
    notBefore (set (.of [.word, .char '.']))]

def bashOperator : Pattern := oneOf [text "&&", text "||", set (.chars "|&;<>()=![]\x7b\x7d")]

def bash : Grammar :=
  .ofRules "bash"
    [hashCommentRule,
     doubleQuotedRule,
     ⟨.string, bashSingleQuoted, Priority.string, Category.string_ne_plain, by decide, by decide⟩,
     ⟨.number, bashNumber, Priority.number, Category.number_ne_plain, by decide, by decide⟩,
     keywordRule bashKeywords,
     ⟨.builtin, bashVariable, Priority.builtin, Category.builtin_ne_plain, by decide, by decide⟩,
     builtinRule bashBuiltins,
     ⟨.operator, bashOperator, Priority.operator, Category.operator_ne_plain, by decide, by decide⟩]
    ["sh", "shell", "zsh", "console"]

end FencedChat.Language
