import FencedChat.Language.Literal

/-!
Grammars of HTML and CSS.
-/

namespace FencedChat.Language

open Pattern

/-- Characters of a name in markup: word characters, the dash and the given others. -/
def nameChars (others : List CharSet.Item) : CharSet := .of (.word :: .char '-' :: others)

def htmlComment : Pattern :=
  all [text "<!--", anything, group false (oneOf [text "-->", textEnd])]

def htmlDoctype : Pattern :=
  all [text "<!", set (.of CharSet.letters), star (.butChars ">"), optional (text ">")]

def htmlTagOpen : Pattern :=
  all [text "<", optional (text "/"), set (.of CharSet.letters), star (nameChars [.char ':'])]

def htmlTagClose : Pattern := all [optional (text "/"), text ">"]

/-- An attribute stands behind a blank and before an equals sign. -/
def htmlAttribute : Pattern :=
  all [after .blank, set (.of (CharSet.letters ++ [.char '_', .char ':', .char '@'])),
    star (nameChars [.char ':', .char '.']), before (all [star .blank, text "="])]

def htmlEntity : Pattern :=
  all [text "&", group false (oneOf
    [all [set (.of CharSet.letters), star (.of (CharSet.letters ++ [.range '0' '9']))],
     all [text "#", plus (.of [.range '0' '9'])],
     all [text "#", set (.chars "xX"), plus (.of CharSet.hexDigits)]]),
    text ";"]

/-- Quotes open a literal only right after an equals sign; apostrophes in text do not. -/
def htmlValue : Pattern :=
  all [after (.single '='), group false (oneOf
    [all [text "\"", star (.butChars "\""), optional (text "\"")],
     all [text "'", star (.butChars "'"), optional (text "'")]])]

def html : Grammar :=
  .ofRules "html"
    [⟨.comment, htmlComment, Priority.blockComment,
       Category.comment_ne_plain, by decide, by decide⟩,
     ⟨.string, htmlValue, Priority.string, Category.string_ne_plain, by decide, by decide⟩,
     ⟨.keyword, htmlDoctype, Priority.keyword, Category.keyword_ne_plain, by decide, by decide⟩,
     ⟨.keyword, htmlTagOpen, Priority.keyword, Category.keyword_ne_plain, by decide, by decide⟩,
     ⟨.builtin, htmlAttribute, Priority.builtin, Category.builtin_ne_plain, by decide, by decide⟩,
     ⟨.builtin, htmlEntity, Priority.builtin, Category.builtin_ne_plain, by decide, by decide⟩,
     ⟨.operator, htmlTagClose, Priority.operator, Category.operator_ne_plain, by decide, by decide⟩,
     ⟨.operator, text "=", Priority.operator, Category.operator_ne_plain, by decide, by decide⟩]
    ["htm", "xml", "svg", "xhtml"]

def cssColor : Pattern :=
  all [text "#", between 3 8 (.of CharSet.hexDigits), notBefore (set (nameChars []))]

def cssUnits : List String :=
  ["px", "em", "rem", "%", "vh", "vw", "vmin", "vmax", "deg", "rad", "turn", "s", "ms", "fr", "ch",
   "pt", "ex"]

def cssNumber : Pattern :=
  all [notAfter (nameChars [.char '#', .char '.']), optional (text "-"),
    group false (oneOf
      [all [plus .digit, optional (text "."), star .digit], all [text ".", plus .digit]]),
    optional (group false (oneOf (cssUnits.map text))),
    notBefore (set (nameChars []))]

def cssAtRule : Pattern := all [text "@", plus (.of (CharSet.letters ++ [.char '-']))]

def cssImportant : Pattern := all [text "!important", wordEdge]

/-- A property stands before a colon that no second colon follows. -/
def cssProperty : Pattern :=
  all [between 0 2 (.single '-'), set (.of CharSet.letters), skip (nameChars []),
    before (all [star .blank, text ":", notBefore (text ":")])]

def css : Grammar :=
  .ofRules "css"
    [blockCommentRule,
     doubleQuotedRule,
     singleQuotedRule,
     ⟨.number, cssColor, Priority.number, Category.number_ne_plain, by decide, by decide⟩,
     ⟨.number, cssNumber, Priority.number, Category.number_ne_plain, by decide, by decide⟩,
     ⟨.keyword, cssAtRule, Priority.keyword, Category.keyword_ne_plain, by decide, by decide⟩,
     ⟨.keyword, cssImportant, Priority.keyword, Category.keyword_ne_plain, by decide, by decide⟩,
     ⟨.builtin, cssProperty, Priority.builtin, Category.builtin_ne_plain, by decide, by decide⟩,
     ⟨.operator, set (.chars "\x7b\x7d:;,.>+~()*=[]"), Priority.operator,
       Category.operator_ne_plain, by decide, by decide⟩]
    ["scss", "less"]

end FencedChat.Language
