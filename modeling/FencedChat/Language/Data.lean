import FencedChat.Language.Literal

/-!
Grammars of SQL, JSON and YAML.
-/

namespace FencedChat.Language

open Pattern

def sqlKeywords : List String :=
  ["select", "from", "where", "and", "or", "not", "insert", "into", "values", "update", "set",
   "delete", "create", "table", "drop", "alter", "add", "index", "view", "join", "inner", "left",
   "right", "outer", "full", "on", "as", "group", "by", "order", "having", "limit", "offset",
   "distinct", "union", "all", "primary", "key", "foreign", "references", "null", "is", "in",
   "like", "between", "exists", "case", "when", "then", "else", "end", "asc", "desc", "default",
   "unique", "with", "returning"]

def sqlBuiltins : List String :=
  ["count", "sum", "avg", "min", "max", "coalesce", "now", "lower", "upper", "length", "cast",
   "round", "integer", "int", "bigint", "text", "varchar", "boolean", "timestamp", "date",
   "serial", "json", "jsonb"]

/-- A quote inside the literal is written twice. -/
def sqlQuoted : Pattern :=
  all [text "'", strides [[.single '\'', .single '\''], [.butChars "'"]], optional (text "'")]

def fraction : Pattern := group false (all [text ".", plus .digit])

def sqlNumber : Pattern :=
  all [notAfter (.of [.word, .char '.']), plus .digit, optional fraction, notBefore (set .word)]

def sqlOperator : Pattern :=
  oneOf [all [set (.chars "<>!="), optional (text "=")], text "<>", text "||",
    set (.chars "+-*/%,;.()")]

def sql : Grammar :=
  .ofRules "sql"
    [blockCommentRule,
     ⟨.comment, all [text "--", star notNewline], Priority.lineComment,
       Category.comment_ne_plain, by decide, by decide⟩,
     ⟨.string, sqlQuoted, Priority.string, Category.string_ne_plain, by decide, by decide⟩,
     doubleQuotedRule,
     ⟨.number, sqlNumber, Priority.number, Category.number_ne_plain, by decide, by decide⟩,
     keywordAnyCaseRule sqlKeywords,
     builtinAnyCaseRule sqlBuiltins,
     ⟨.operator, sqlOperator, Priority.operator, Category.operator_ne_plain, by decide, by decide⟩]
    ["postgresql", "postgres", "mysql", "sqlite"]

def jsonNumber : Pattern :=
  all [optional (text "-"), notAfter (.of [.word, .char '.']), plus .digit, optional fraction,
    optional exponent, notBefore (set (.of [.word, .char '.']))]

def json : Grammar :=
  .ofRules "json"
    [doubleQuotedRule,
     ⟨.number, jsonNumber, Priority.number, Category.number_ne_plain, by decide, by decide⟩,
     keywordRule ["true", "false", "null"],
     ⟨.operator, set (.chars "\x7b\x7d[]:,"), Priority.operator,
       Category.operator_ne_plain, by decide, by decide⟩]
    ["jsonc", "json5"]

/-- A key stands behind blank text, a dash, an opening brace or a comma, and before a colon that a
blank or the end of the text follows. -/
def yamlKey : Pattern :=
  all [notAfter (.except [.blank, .char '-', .char '\x7b', .char ',']),
    wholeRun (.of [.word, .char '.', .char '-', .char '/']),
    before (all [star (.chars " \t"), text ":", group false (oneOf [set .blank, lineEnd])])]

def yamlNumber : Pattern :=
  all [notAfter (.of [.word, .char '.', .char '-']), optional (text "-"), plus .digit,
    optional fraction, notBefore (set (.of [.word, .char '.', .char ':', .char '-']))]

/-- A dash is an operator only where it stands alone. -/
def yamlOperator : Pattern :=
  oneOf [all [notAfter .notBlank, text "-", before (set .blank)],
    set (.chars ":[]\x7b\x7d,|>&*!")]

def yaml : Grammar :=
  .ofRules "yaml"
    [hashCommentRule,
     doubleQuotedRule,
     singleQuotedRule,
     ⟨.number, yamlNumber, Priority.number, Category.number_ne_plain, by decide, by decide⟩,
     keywordRule ["true", "false", "null", "yes", "no", "on", "off", "~"],
     ⟨.builtin, yamlKey, Priority.builtin, Category.builtin_ne_plain, by decide, by decide⟩,
     ⟨.operator, yamlOperator, Priority.operator, Category.operator_ne_plain, by decide, by decide⟩]
    ["yml"]

end FencedChat.Language
