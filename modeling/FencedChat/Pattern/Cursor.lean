import FencedChat.Pattern.CharSet

/-!
Places in a text. A cursor knows the character before it and the text after it, which is all that a
pattern can look at.
-/

namespace FencedChat

/-- A place in a text: the character before it, the text after it and the length of that text. -/
structure Cursor where
  prev : Option Char
  rest : List Char
  left : Nat
  left_eq : left = rest.length

namespace Cursor

def start (s : List Char) : Cursor := ⟨none, s, s.length, rfl⟩

@[ext] theorem ext {s t : Cursor} (hp : s.prev = t.prev) (hr : s.rest = t.rest) : s = t := by
  obtain ⟨p, r, l, h⟩ := s
  obtain ⟨q, r', l', h'⟩ := t
  simp only at hp hr
  subst hp hr h h'
  rfl

instance : DecidableEq Cursor := fun s t =>
  decidable_of_iff (s.prev = t.prev ∧ s.rest = t.rest)
    ⟨fun h => ext h.1 h.2, fun h => h ▸ ⟨rfl, rfl⟩⟩

def next? : Cursor → Option Cursor
  | ⟨_, [], _, _⟩ => none
  | ⟨_, c :: r, n, h⟩ => some ⟨some c, r, n - 1, by simp [h]⟩

/-- The place after the next character, if the set holds that character. -/
def step? (x : CharSet) : Cursor → Option Cursor
  | ⟨_, [], _, _⟩ => none
  | ⟨_, c :: r, n, h⟩ => if x.mem c then some ⟨some c, r, n - 1, by simp [h]⟩ else none

/-- The place after as many characters as there are sets, if each set holds its character. -/
def steps? : List CharSet → Cursor → Option Cursor
  | [], s => some s
  | x :: xs, s =>
    match s.step? x with
    | some t => steps? xs t
    | none => none

/-- The place after all characters of the set that follow one another from here, in the text `rest`
behind the character `prev`. -/
def skipFrom (x : CharSet) (prev : Option Char) :
    (rest : List Char) → (left : Nat) → left = rest.length → Cursor
  | [], n, h => ⟨prev, [], n, h⟩
  | c :: r, n, h =>
    if x.mem c then skipFrom x (some c) r (n - 1) (by simp [h]) else ⟨prev, c :: r, n, h⟩

def skip (x : CharSet) (s : Cursor) : Cursor := skipFrom x s.prev s.rest s.left s.left_eq

theorem rest_skip (x : CharSet) (s : Cursor) : (s.skip x).rest = s.rest.dropWhile x.mem := by
  have h : ∀ (r : List Char) (p : Option Char) (n : Nat) (e : n = r.length),
      (skipFrom x p r n e).rest = r.dropWhile x.mem := by
    intro r
    induction r with
    | nil => intro p n e; rfl
    | cons c r ih =>
      intro p n e
      by_cases hc : x.mem c
      · simp [skipFrom, hc, ih]
      · simp [skipFrom, hc]
  exact h s.rest s.prev s.left s.left_eq

def prevIn (x : CharSet) (s : Cursor) : Bool := s.prev.any x.mem

def atLineStart (s : Cursor) : Bool :=
  match s.prev with
  | none => true
  | some c => c == '\n'

def atLineEnd (s : Cursor) : Bool :=
  match s.rest with
  | [] => true
  | c :: _ => c == '\n'

def atEnd (s : Cursor) : Bool := s.rest.isEmpty

def atWordEdge (s : Cursor) : Bool :=
  s.prev.any isWordChar != (s.rest.head?).any isWordChar

def textTo (s t : Cursor) : List Char := s.rest.take (s.left - t.left)

@[simp] theorem left_start (s : List Char) : (start s).left = s.length := rfl

@[simp] theorem rest_start (s : List Char) : (start s).rest = s := rfl

end Cursor

end FencedChat
