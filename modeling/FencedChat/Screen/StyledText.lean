import FencedChat.Highlight
import FencedChat.Message.Segment
import FencedChat.Text.Showable

/-!
Text with styled ranges, as a terminal shows it: source text by category, and the prose between code
blocks.
-/

namespace FencedChat

/-- A range of characters, its end excluded, and its style. -/
structure StyleRange where
  start : Nat
  stop : Nat
  style : String
  deriving DecidableEq, Repr

structure StyledPiece where
  text : String
  style : Option String
  deriving DecidableEq, Repr

namespace StyledPiece

def shown (p : StyledPiece) : List Char := showable p.text.toList

/-- The range of the piece behind a number of characters. A piece that has a style has one, also
when none of its characters can be shown, but a piece without characters has none. -/
def range? (p : StyledPiece) (start : Nat) : Option StyleRange :=
  if p.text = "" then none else p.style.map fun s => ⟨start, start + p.shown.length, s⟩

end StyledPiece

structure StyledText where
  plain : List Char
  ranges : List StyleRange
  deriving DecidableEq, Repr

namespace StyledText

/-- The ranges of pieces behind a number of characters and behind ranges that are held in
reverse. -/
def rangesOnto (ranges : List StyleRange) (start : Nat) : List StyledPiece → List StyleRange
  | [] => ranges.reverse
  | p :: rest =>
    rangesOnto ((p.range? start).elim ranges (· :: ranges)) (start + p.shown.length) rest

def ofPieces (pieces : List StyledPiece) : StyledText :=
  ⟨pieces.flatMap StyledPiece.shown, rangesOnto [] 0 pieces⟩

/-- What is assumed of the way in which pieces are put together: each stands behind the text so far,
and its range, if it has one, behind the ranges so far. -/
structure Joins (join : List StyledPiece → StyledText) : Prop where
  empty : join [] = ⟨[], []⟩
  concat : ∀ pieces p, join (pieces ++ [p]) =
    ⟨(join pieces).plain ++ p.shown,
      (join pieces).ranges ++ (p.range? (join pieces).plain.length).toList⟩

/-- The ranges that start before the end of a shorter text, cut at that end. -/
def clip (length : Nat) (ranges : List StyleRange) : List StyleRange :=
  (ranges.filter fun r => r.start < length).map fun r => { r with stop := min r.stop length }

def trimEnd (t : StyledText) : StyledText :=
  let shorter := trimEndChars t.plain
  if shorter.length < t.plain.length then ⟨shorter, clip shorter.length t.ranges⟩ else t

/-- What is assumed of the way in which the blanks at the end of a text are cut off: the ranges are
cut with the text, and nothing else changes. -/
structure TrimsEnd (trim : StyledText → StyledText) : Prop where
  shorter : ∀ t, (trimEndChars t.plain).length < t.plain.length →
    trim t = ⟨trimEndChars t.plain, clip (trimEndChars t.plain).length t.ranges⟩
  same : ∀ t, t.plain.length ≤ (trimEndChars t.plain).length → trim t = t

def categoryStyle : Category → Option String
  | .comment => some "italic #5c6370"
  | .string => some "#98c379"
  | .number => some "#d19a66"
  | .keyword => some "bold #c678dd"
  | .builtin => some "#56b6c2"
  | .operator => some "#61afef"
  | .plain => none

def inlineCodeStyle : String := "bold #e5c07b on #2c313a"

def ofSpans (spans : List Span) : StyledText :=
  ofPieces (spans.map fun s => ⟨s.text, categoryStyle s.category⟩)

def ofSegment? : Segment → Option StyledPiece
  | .text s => some ⟨s, none⟩
  | .inlineCode code => some ⟨code, some inlineCodeStyle⟩
  | .lineBreak => some ⟨"\n", none⟩
  | .codeBlock _ _ => none

def ofProse (segments : List Segment) : StyledText := ofPieces (segments.filterMap ofSegment?)

end StyledText

inductive MessagePart
  | prose (text : StyledText)
  | code (block : CodeBlock) (markup : String)
  deriving DecidableEq, Repr

namespace MessagePart

/-- The text of a run of prose, unless it is blank, before the parts that follow it. The run is
given in reverse. -/
def flush (run : List Segment) (parts : List MessagePart) : List MessagePart :=
  let text := StyledText.ofProse run.reverse
  if text.plain.all isBlank then parts else prose text.trimEnd :: parts

/-- The parts of a message, behind the run of prose that is given in reverse. -/
def groupOnto (run : List Segment) : List Segment → List MessagePart
  | [] => flush run []
  | .codeBlock b m :: rest => flush run (code b m :: groupOnto [] rest)
  | s :: rest => groupOnto (s :: run) rest

/-- Runs of prose and code blocks, in the order of the message. -/
def group (segments : List Segment) : List MessagePart := groupOnto [] segments

end MessagePart

end FencedChat
