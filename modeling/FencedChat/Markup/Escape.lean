/-!
Escaping of text for HTML. Element content escapes the ampersand and the angle brackets; attribute
values escape both kinds of quotes as well.
-/

namespace FencedChat.Markup

def escapeChar : Char → List Char
  | '&' => ['&', 'a', 'm', 'p', ';']
  | '<' => ['&', 'l', 't', ';']
  | '>' => ['&', 'g', 't', ';']
  | c => [c]

def escapeAttributeChar : Char → List Char
  | '"' => ['&', 'q', 'u', 'o', 't', ';']
  | '\'' => ['&', '#', 'x', '2', '7', ';']
  | c => escapeChar c

def escapeChars (s : List Char) : List Char := s.flatMap escapeChar

def escape (s : String) : String := String.ofList (escapeChars s.toList)

def escapeAttribute (s : String) : String := String.ofList (s.toList.flatMap escapeAttributeChar)

@[simp] theorem escapeChars_nil : escapeChars [] = [] := rfl

@[simp] theorem escapeChars_cons (c : Char) (s : List Char) :
    escapeChars (c :: s) = escapeChar c ++ escapeChars s := rfl

@[simp] theorem escapeChars_append (s t : List Char) :
    escapeChars (s ++ t) = escapeChars s ++ escapeChars t := by simp [escapeChars]

@[simp] theorem toList_escape (s : String) : (escape s).toList = escapeChars s.toList := by
  simp [escape]

/-- Escaped text holds no opening angle bracket. -/
theorem lt_not_mem_escapeChars (s : List Char) : '<' ∉ escapeChars s := by
  induction s with
  | nil => simp
  | cons c s ih =>
    simp only [escapeChars_cons, List.mem_append, not_or]
    refine ⟨?_, ih⟩
    unfold escapeChar
    split
    · decide
    · decide
    · decide
    · rename_i hlt _
      exact fun h => hlt (List.mem_singleton.1 h).symm

end FencedChat.Markup
