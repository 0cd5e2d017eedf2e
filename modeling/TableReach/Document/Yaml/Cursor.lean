import TableReach.Document.Basic

/-!
# Places in a YAML text

The layout of a YAML text carries meaning, so a reader knows on which line and at
which column it stands.  Texts are read with one common way to end a line, next to
which only the separators of lines and of paragraphs remain.
-/

namespace TableReach
namespace Document
namespace Yaml

/-- A blank on a line. -/
def isSpace (character : Char) : Bool :=
  character == ' ' || character == '\t'

/-- A character that ends a line. -/
def isBreak (character : Char) : Bool :=
  ['\n', '\r', '\u0085', '\u2028', '\u2029'].contains character

/-- A blank or the end of a line. -/
def isGap (character : Char) : Bool :=
  isSpace character || isBreak character

/-- A blank, the end of a line or the end of the text comes next. -/
def atGap : List Char → Bool
  | [] => true
  | character :: _ => isGap character

/-- The text goes on with the mark of a document's start or end, if it stands at the first
column. -/
def atMarker (text : List Char) : Bool :=
  (text.take 3 == ['-', '-', '-'] || text.take 3 == ['.', '.', '.']) && atGap (text.drop 3)

/-- A text with one common way to end a line. -/
def unifyBreaks : List Char → List Char
  | [] => []
  | '\r' :: '\n' :: rest => '\n' :: unifyBreaks rest
  | '\r' :: rest => '\n' :: unifyBreaks rest
  | '\u0085' :: rest => '\n' :: unifyBreaks rest
  | character :: rest => character :: unifyBreaks rest

/-- A character that may stand in a text with one common way to end a line. -/
def isAllowed (character : Char) : Bool :=
  character == '\t' || character == '\n' || (' ' ≤ character && character ≤ '~') ||
    (0xA0 ≤ character.toNat && character != '\ufffe' && character != '\uffff')

/-- A place in a text. -/
structure Cursor where
  /-- The text from here on. -/
  rest : List Char
  /-- How many characters stand before. -/
  index : Nat
  /-- The line. -/
  line : Nat
  /-- The column. -/
  column : Nat

namespace Cursor

/-- The start of a text. -/
def start (text : List Char) : Cursor :=
  { rest := text, index := 0, line := 0, column := 0 }

/-- The place behind one character. -/
def step (cursor : Cursor) (character : Char) : Cursor :=
  { rest := cursor.rest.drop 1
    index := cursor.index + 1
    line := if isBreak character then cursor.line + 1 else cursor.line
    column := if isBreak character then 0 else cursor.column + 1 }

/-- The place behind a number of characters. -/
def advance (cursor : Cursor) (count : Nat) : Cursor :=
  (cursor.rest.take count).foldl step cursor

/-- The place at which `rest`, an end of the text, starts. -/
def moveTo (cursor : Cursor) (rest : List Char) : Cursor :=
  cursor.advance (cursor.rest.length - rest.length)

end Cursor
end Yaml
end Document
end TableReach
