import TableReach.Text.Search

/-!
# Styled text

A line of a report is a row of spans, each in a tone of its own.  A span is printed
plain or between the marks that switch its tone on and off.
-/

namespace TableReach

/-- The tone of a span. -/
inductive Tone where
  | bold
  | green
  | cyan
  | yellow
  | red
  | boldCyan
deriving DecidableEq

namespace Tone

/-- The codes of a tone. -/
def codes : Tone → String
  | bold => "1"
  | green => "32"
  | cyan => "36"
  | yellow => "33"
  | red => "31"
  | boldCyan => "1;36"

/-- The mark that switches a tone on. -/
def mark (tone : Tone) : List Char :=
  '\x1b' :: '[' :: tone.codes.toList ++ ['m']

/-- The mark that switches every tone off. -/
def reset : List Char :=
  ['\x1b', '[', '0', 'm']

/-- A text between the marks of a tone.  Where the text switches tones off itself, the tone is
switched on again. -/
def paint (tone : Tone) (text : List Char) : List Char :=
  tone.mark ++ Text.replaceExact reset (reset ++ tone.mark) text ++ reset

end Tone

/-- A text in a tone, or in none. -/
structure Span where
  /-- The tone. -/
  tone : Option Tone
  /-- The text. -/
  text : String
deriving DecidableEq

namespace Span

/-- A text without a tone. -/
def bare (text : String) : Span :=
  { tone := none, text := text }

/-- A text in a tone. -/
def toned (tone : Tone) (text : String) : Span :=
  { tone := some tone, text := text }

/-- The characters of a span. -/
def render (colored : Bool) (span : Span) : List Char :=
  match span.tone with
  | none => span.text.toList
  | some tone => if colored then tone.paint span.text.toList else span.text.toList

end Span

/-- A row of spans. -/
abbrev StyledLine := List Span

/-- The characters of a line, its end included. -/
def StyledLine.render (colored : Bool) (line : StyledLine) : List Char :=
  line.flatMap (Span.render colored) ++ ['\n']

end TableReach
