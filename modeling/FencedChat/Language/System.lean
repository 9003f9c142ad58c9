import FencedChat.Language.Literal

/-!
Grammars of the systems languages C, C++, Go and Rust.
-/

namespace FencedChat.Language

open Pattern

def preprocessor : Pattern :=
  all [lineStart, star (.chars " \t"), text "#", star (.chars " \t"), plus (.of CharSet.letters)]

def preprocessorRule : Rule :=
  ⟨.keyword, preprocessor, Priority.keyword, Category.keyword_ne_plain, by decide, by decide⟩

def cKeywords : List String :=
  ["auto", "break", "case", "char", "const", "continue", "default", "do", "double", "else", "enum",
   "extern", "float", "for", "goto", "if", "int", "long", "register", "return", "short", "signed",
   "sizeof", "static", "struct", "switch", "typedef", "union", "unsigned", "void", "volatile",
   "while"]

def cBuiltins : List String :=
  ["printf", "scanf", "malloc", "free", "calloc", "realloc", "strcpy", "strcat", "strlen",
   "strcmp", "fopen", "fclose", "fread", "fwrite", "fprintf", "fscanf", "getchar", "putchar",
   "gets", "puts", "atoi", "atof", "sprintf", "sscanf", "memcpy", "memmove", "memset", "memcmp",
   "qsort", "bsearch", "rand", "srand", "time", "clock", "exit", "abort", "assert", "NULL",
   "size_t", "FILE"]

def cppKeywords : List String :=
  cKeywords ++
  ["class", "namespace", "template", "typename", "virtual", "public", "private", "protected",
   "friend", "inline", "explicit", "mutable", "operator", "this", "new", "delete", "true", "false",
   "nullptr", "using", "try", "catch", "throw", "decltype", "constexpr", "noexcept", "override",
   "final", "alignas", "alignof", "const_cast", "dynamic_cast", "reinterpret_cast", "static_cast",
   "typeid", "bool"]

def cppBuiltins : List String :=
  cBuiltins ++
  ["std", "cout", "cin", "cerr", "endl", "string", "vector", "map", "set", "list", "queue",
   "stack", "unique_ptr", "shared_ptr", "weak_ptr", "make_unique", "make_shared", "move",
   "forward"]

def goKeywords : List String :=
  ["break", "case", "chan", "const", "continue", "default", "defer", "else", "fallthrough", "for",
   "func", "go", "goto", "if", "import", "interface", "map", "package", "range", "return",
   "select", "struct", "switch", "type", "var", "true", "false", "nil"]

def goBuiltins : List String :=
  ["append", "cap", "close", "complex", "copy", "delete", "len", "make", "new", "panic", "print",
   "println", "recover", "bool", "byte", "error", "float32", "float64", "int", "int8", "int16",
   "int32", "int64", "rune", "string", "uint", "uint8", "uint16", "uint32", "uint64", "fmt"]

def rustKeywords : List String :=
  ["as", "async", "await", "break", "const", "continue", "crate", "dyn", "else", "enum", "extern",
   "false", "fn", "for", "if", "impl", "in", "let", "loop", "match", "mod", "move", "mut", "pub",
   "ref", "return", "self", "Self", "static", "struct", "super", "trait", "true", "type", "unsafe",
   "use", "where", "while"]

def rustBuiltins : List String :=
  ["Option", "Some", "None", "Result", "Ok", "Err", "Vec", "String", "Box", "Rc", "Arc", "HashMap",
   "println", "print", "format", "vec", "panic", "i8", "i16", "i32", "i64", "i128", "isize", "u8",
   "u16", "u32", "u64", "u128", "usize", "f32", "f64", "bool", "char", "str"]

/-- A character literal holds exactly one character, which may be escaped; lifetimes are plain. -/
def rustCharacter : Pattern :=
  all [optional (text "b"), text "'",
    group false (oneOf
      [all [text "\\",
        group false (oneOf
          [all [text "x", many [[.of CharSet.hexDigits]] 2 (some 2) true],
           all [text "u\x7b", plus (.of CharSet.hexDigits), text "\x7d"],
           set notNewline])],
       set (.butChars "'\\\n")]),
    text "'"]

def rustCharacterRule : Rule :=
  ⟨.string, rustCharacter, Priority.string, Category.string_ne_plain, by decide, by decide⟩

def c : Grammar :=
  .ofRules "c"
    (commentRules ++ [doubleQuotedRule, singleQuotedRule, numberRule, preprocessorRule,
      keywordRule cKeywords,
      builtinRule cBuiltins,
      operatorRule])
    ["h"]

def cpp : Grammar :=
  .ofRules "cpp"
    (commentRules ++ [doubleQuotedRule, singleQuotedRule, numberRule, preprocessorRule,
      keywordRule cppKeywords,
      builtinRule cppBuiltins,
      operatorRule])
    ["c++", "cc", "cxx", "hpp"]

def go : Grammar :=
  .ofRules "go"
    (commentRules ++ [doubleQuotedRule, singleQuotedRule, backtickQuotedRule, numberRule,
      keywordRule goKeywords,
      builtinRule goBuiltins,
      operatorRule])
    ["golang"]

def rust : Grammar :=
  .ofRules "rust"
    (commentRules ++ [doubleQuotedRule, rustCharacterRule, numberRule,
      keywordRule rustKeywords,
      builtinRule rustBuiltins,
      operatorRule])
    ["rs"]

end FencedChat.Language
