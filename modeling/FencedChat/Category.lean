/-!
Lexical categories of source text.
-/

namespace FencedChat

/-- What a piece of source text is. Plain text is what no rule of a grammar matches. -/
inductive Category
  | comment
  | string
  | number
  | keyword
  | builtin
  | operator
  | plain
  deriving DecidableEq, Repr, Inhabited

namespace Category

def name : Category → String
  | comment => "comment"
  | string => "string"
  | number => "number"
  | keyword => "keyword"
  | builtin => "builtin"
  | operator => "operator"
  | plain => "plain"

def classified : List Category := [comment, string, number, keyword, builtin, operator]

def all : List Category := classified ++ [plain]

theorem mem_all (c : Category) : c ∈ all := by cases c <;> decide

theorem mem_classified {c : Category} : c ∈ classified ↔ c ≠ plain := by cases c <;> decide

theorem comment_ne_plain : comment ≠ plain := by decide

theorem string_ne_plain : string ≠ plain := by decide

theorem number_ne_plain : number ≠ plain := by decide

theorem keyword_ne_plain : keyword ≠ plain := by decide

theorem builtin_ne_plain : builtin ≠ plain := by decide

theorem operator_ne_plain : operator ≠ plain := by decide

def ofName? (s : String) : Option Category := all.find? fun c => c.name == s

@[simp] theorem ofName?_name (c : Category) : ofName? c.name = some c := by cases c <;> decide

theorem name_injective {a b : Category} (h : a.name = b.name) : a = b := by
  have := congrArg ofName? h
  simpa using this

end Category

end FencedChat
