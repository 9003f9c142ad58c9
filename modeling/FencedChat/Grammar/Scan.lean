import FencedChat.Grammar.Basic

/-!
Scanning of source text. The scan looks for the next place where a rule of the grammar matches,
passes over the text before it as plain text, and goes on after the match.
-/

namespace FencedChat

/-- A run of source text under one category. -/
structure Span where
  category : Category
  text : String
  deriving DecidableEq, Repr

theorem Cursor.left_next? {s t : Cursor} (h : s.next? = some t) : t.left < s.left := by
  obtain ⟨p, r, l, hl⟩ := s
  cases r with
  | nil => simp [Cursor.next?] at h
  | cons c r =>
    simp only [Cursor.next?, Option.some.injEq] at h
    subst h
    simp only [List.length_cons] at hl
    simp only
    omega

namespace Grammar

structure Hit where
  start : Cursor
  category : Category
  stop : Cursor

/-- The match at `s` of the first rule that matches there. Unless it may be empty, a rule has to
match at least one character. -/
def hitAt? (rules : List Rule) (mayBeEmpty : Bool) (s : Cursor) : Option Hit :=
  rules.findSome? fun r =>
    (r.pattern.run s fun t => if mayBeEmpty || t.left != s.left then some t else none).map
      fun t => ⟨s, r.category, t⟩

/-- The first match at `s` or later. Only a match at `s` itself may be required not to be empty. -/
def search? (rules : List Rule) (mayBeEmpty : Bool) (s : Cursor) : Option Hit :=
  match hitAt? rules mayBeEmpty s with
  | some hit => some hit
  | none =>
    match _h : s.next? with
    | some t => search? rules true t
    | none => none
termination_by s.left
decreasing_by exact Cursor.left_next? (by assumption)

/-- Puts a piece of plain text before the pieces found so far, which are held in reverse. -/
def passOver (gap : List Char) (done : List Span) : List Span :=
  if gap.isEmpty then done else ⟨.plain, String.ofList gap⟩ :: done

/-- Scans from `s` on, behind the pieces found so far. After an empty match the next match at the
same place must not be empty. -/
def scanOnto (rules : List Rule) (done : List Span) (mayBeEmpty : Bool) (s : Cursor) : List Span :=
  match search? rules mayBeEmpty s with
  | none => (passOver s.rest done).reverse
  | some hit =>
    let found := ⟨hit.category, String.ofList (hit.start.textTo hit.stop)⟩
      :: passOver (s.textTo hit.start) done
    if hit.stop.left < s.left then
      scanOnto rules found (decide (hit.stop.left < hit.start.left)) hit.stop
    else if mayBeEmpty then scanOnto rules found false s
    else (passOver s.rest found).reverse
termination_by 2 * s.left + mayBeEmpty.toNat
decreasing_by
  · have : Bool.toNat (decide (hit.stop.left < hit.start.left)) ≤ 1 := Bool.toNat_le _
    omega
  · simp_all

/-- The text cut into pieces: what a rule matches under its category, all else as plain text. -/
def scan (g : Grammar) (code : String) : List Span := scanOnto g.rules [] true (.start code.toList)

end Grammar

end FencedChat
