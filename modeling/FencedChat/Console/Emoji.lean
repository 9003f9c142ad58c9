import FencedChat.Console.EmojiTable
import FencedChat.Text.Blank
import FencedChat.Text.Case

/-!
Emoji codes: a name between colons is shown as an emoji, whatever the case of its letters. A name
that stands for none is shown as it is, with its colons.
-/

namespace FencedChat.Console

def ofCodePoints (codes : List Nat) : List Char := codes.map Char.ofNat

def skinTones : List (String × Nat) :=
  [("_light_skin_tone", 0x1F3FB), ("_medium-light_skin_tone", 0x1F3FC),
   ("_medium_skin_tone", 0x1F3FD), ("_medium-dark_skin_tone", 0x1F3FE),
   ("_dark_skin_tone", 0x1F3FF)]

def colourSelector : Char := Char.ofNat 0xFE0F

/-- The sign that asks for the plain form of the character before it. -/
def textSelector : Char := Char.ofNat 0xFE0E

/-- An emoji with a tone of skin behind its first character, in place of a sign for its form. -/
def withTone (tone : Nat) : List Char → List Char
  | [] => []
  | c :: r => c :: Char.ofNat tone :: if r.head? = some colourSelector then r.drop 1 else r

def tonedEmoji? (name : List Char) : Option (List Char) :=
  skinTones.findSome? fun (ending, tone) =>
    if ending.toList.isSuffixOf name then
      (tonedEmojiTable.lookup (String.ofList (name.take (name.length - ending.length)))).map
        fun codes => withTone tone (ofCodePoints codes)
    else none

def flag? (name : List Char) : Option (List Char) :=
  let country := if "flag_for_".toList.isPrefixOf name then name.drop 9 else name
  (flagTable.lookup (String.ofList country)).map fun letters =>
    letters.toList.map fun c => Char.ofNat (0x1F1E6 + (c.toNat - 'A'.toNat))

def emoji? (name : String) : Option (List Char) :=
  (((emojiTable.lookup name).or (tonedEmojiTable.lookup name)).map ofCodePoints).or
    ((tonedEmoji? name.toList).or (flag? name.toList))

/-- A name without the ending that asks for one of the two forms of an emoji, and the sign for that
form. -/
def withoutForm (name : List Char) : List Char × List Char :=
  if "-emoji".toList.isSuffixOf name then (name.take (name.length - 6), [colourSelector])
  else if "-text".toList.isSuffixOf name then (name.take (name.length - 5), [textSelector])
  else (name, [])

def namedEmoji? (name : List Char) : Option (List Char) :=
  (emoji? (lower (String.ofList (withoutForm name).1))).map (· ++ (withoutForm name).2)

def isCodeChar (c : Char) : Bool := c != ':' && !isBlank c

def codeName? (s : List Char) : Option (List Char × List Char) :=
  match s.dropWhile isCodeChar with
  | ':' :: rest => some (s.takeWhile isCodeChar, rest)
  | _ => none

theorem length_codeName? {s name rest : List Char} (h : codeName? s = some (name, rest)) :
    rest.length < s.length := by
  simp only [codeName?] at h
  split at h
  · rename_i heq
    have := (List.dropWhile_sublist isCodeChar (l := s)).length_le
    rw [heq, List.length_cons] at this
    simp only [Option.some.injEq, Prod.mk.injEq] at h
    simp only [← h.2]
    omega
  · simp at h

/-- The text with emoji in place of their codes. A name that stands for none stays between its
colons. -/
def withEmoji (emojiOf? : List Char → Option (List Char)) (s : List Char) : List Char :=
  match s with
  | [] => []
  | c :: r =>
    match _h : if c = ':' then codeName? r else none with
    | some (name, rest) =>
      (emojiOf? name).getD (':' :: name ++ [':']) ++ withEmoji emojiOf? rest
    | none => c :: withEmoji emojiOf? r
termination_by s.length
decreasing_by
  · have h : codeName? r = some (name, rest) := by split at _h <;> simp_all
    have := length_codeName? h
    simp only [List.length_cons]; omega
  · simp only [List.length_cons]; omega

end FencedChat.Console
