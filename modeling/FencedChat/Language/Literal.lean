import FencedChat.Grammar.Basic

/-!
Comments, quoted literals, numbers and operators that several languages share.
-/

namespace FencedChat.Language

open Pattern

def notNewline : CharSet := .butChars "\n"

/-- Closed by a star and a slash, or running to the end of the text. -/
def blockComment : Pattern := all [text "/*", anything, group false (oneOf [text "*/", textEnd])]

def slashComment : Pattern := all [text "//", star notNewline]

/-- A hash opens a comment only where no other text touches it. -/
def hashComment : Pattern := all [notAfter .notBlank, text "#", star notNewline]

/-- Strides inside a quoted literal: a backslash with the character after it, or a character that is
none of `stops`, which hold the backslash. -/
def quotedStride (stops : String) : Stride := [[.single '\\', .any], [.butChars stops]]

/-- An unterminated literal runs to the end of the line. -/
def doubleQuoted : Pattern :=
  all [text "\"", strides (quotedStride "\"\\\n"), optional (text "\"")]

/-- An unterminated literal runs to the end of the line. -/
def singleQuoted : Pattern :=
  all [text "'", strides (quotedStride "'\\\n"), optional (text "'")]

/-- An unterminated literal runs to the end of the text. -/
def backtickQuoted : Pattern :=
  all [text "`", strides (quotedStride "`\\"), optional (text "`")]

def spacedDigits : Pattern := all [set .digit, star (.of [.digit, .char '_'])]

def exponent : Pattern :=
  group false (all [set (.chars "eE"), optional (set (.chars "+-")), plus .digit])

/-- An integer of base sixteen, two, eight or ten, or a decimal fraction, with the letters that
follow it. -/
def number : Pattern :=
  all [notAfter (.of [.word, .char '.']),
    group false (oneOf
      [all [text "0", set (.chars "xX"), plus (.of (CharSet.hexDigits ++ [.char '_']))],
       all [text "0", set (.chars "bB"), plus (.chars "01_")],
       all [text "0", set (.chars "oO"), plus (.of [.range '0' '7', .char '_'])],
       all [group false (oneOf
          [all [spacedDigits, optional (group false (all [text ".", spacedDigits]))],
           all [text ".", spacedDigits]]),
         optional exponent]]),
    star (.of CharSet.letters)]

def operator : Pattern :=
  oneOf [plus (.chars "+-*/%=<>!&|^~?:"), set (.chars ".,;()[]\x7b\x7d@")]

def blockCommentRule : Rule :=
  ⟨.comment, blockComment, Priority.blockComment, Category.comment_ne_plain, by decide, by decide⟩

def slashCommentRule : Rule :=
  ⟨.comment, slashComment, Priority.lineComment, Category.comment_ne_plain, by decide, by decide⟩

def hashCommentRule : Rule :=
  ⟨.comment, hashComment, Priority.lineComment, Category.comment_ne_plain, by decide, by decide⟩

def commentRules : List Rule := [blockCommentRule, slashCommentRule]

def doubleQuotedRule : Rule :=
  ⟨.string, doubleQuoted, Priority.string, Category.string_ne_plain, by decide, by decide⟩

def singleQuotedRule : Rule :=
  ⟨.string, singleQuoted, Priority.string, Category.string_ne_plain, by decide, by decide⟩

def backtickQuotedRule : Rule :=
  ⟨.string, backtickQuoted, Priority.string, Category.string_ne_plain, by decide, by decide⟩

def numberRule : Rule :=
  ⟨.number, number, Priority.number, Category.number_ne_plain, by decide, by decide⟩

def operatorRule : Rule :=
  ⟨.operator, operator, Priority.operator, Category.operator_ne_plain, by decide, by decide⟩

def keywordRule (names : List String) (hne : names ≠ [] := by decide)
    (h : "" ∉ names := by decide) : Rule :=
  ⟨.keyword, words names, Priority.keyword, Category.keyword_ne_plain, captures_words names,
    matchesEmpty_words hne h⟩

def keywordAnyCaseRule (names : List String) (hne : names ≠ [] := by decide)
    (h : "" ∉ names := by decide) : Rule :=
  ⟨.keyword, wordsAnyCase names, Priority.keyword, Category.keyword_ne_plain,
    captures_wordsAnyCase names, matchesEmpty_wordsAnyCase hne h⟩

def builtinRule (names : List String) (hne : names ≠ [] := by decide)
    (h : "" ∉ names := by decide) : Rule :=
  ⟨.builtin, words names, Priority.builtin, Category.builtin_ne_plain, captures_words names,
    matchesEmpty_words hne h⟩

def builtinAnyCaseRule (names : List String) (hne : names ≠ [] := by decide)
    (h : "" ∉ names := by decide) : Rule :=
  ⟨.builtin, wordsAnyCase names, Priority.builtin, Category.builtin_ne_plain,
    captures_wordsAnyCase names, matchesEmpty_wordsAnyCase hne h⟩

end FencedChat.Language
