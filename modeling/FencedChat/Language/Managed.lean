import FencedChat.Language.Literal

/-!
Grammars of Java and C#.
-/

namespace FencedChat.Language

def javaKeywords : List String :=
  ["abstract", "assert", "boolean", "break", "byte", "case", "catch", "char", "class", "continue",
   "default", "do", "double", "else", "enum", "extends", "final", "finally", "float", "for", "if",
   "implements", "import", "instanceof", "int", "interface", "long", "new", "package", "private",
   "protected", "public", "return", "short", "static", "super", "switch", "synchronized", "this",
   "throw", "throws", "try", "var", "void", "volatile", "while", "null", "true", "false"]

def javaBuiltins : List String :=
  ["String", "Object", "System", "Integer", "Long", "Double", "Boolean", "Math", "List",
   "ArrayList", "Map", "HashMap", "Set", "HashSet", "Optional", "Exception", "RuntimeException",
   "Override"]

def csharpKeywords : List String :=
  ["abstract", "as", "async", "await", "base", "bool", "break", "case", "catch", "class", "const",
   "continue", "decimal", "default", "delegate", "do", "double", "else", "enum", "event", "false",
   "finally", "float", "for", "foreach", "get", "if", "in", "int", "interface", "internal", "is",
   "long", "namespace", "new", "null", "object", "out", "override", "private", "protected",
   "public", "readonly", "ref", "return", "sealed", "set", "static", "string", "struct", "switch",
   "this", "throw", "true", "try", "using", "var", "virtual", "void", "while"]

def csharpBuiltins : List String :=
  ["Console", "String", "Math", "List", "Dictionary", "Task", "Exception", "DateTime", "Guid",
   "IEnumerable", "LINQ"]

def java : Grammar :=
  .ofRules "java"
    (commentRules ++ [doubleQuotedRule, singleQuotedRule, numberRule,
      keywordRule javaKeywords,
      builtinRule javaBuiltins,
      operatorRule])
    []

def csharp : Grammar :=
  .ofRules "csharp"
    (commentRules ++ [doubleQuotedRule, singleQuotedRule, numberRule,
      keywordRule csharpKeywords,
      builtinRule csharpBuiltins,
      operatorRule])
    ["cs", "c#"]

end FencedChat.Language
