import TableReach.Document.Scan
import TableReach.Document.Yaml.Cursor

/-!
# Scalars of YAML

Scalars are plain, quoted, or blocks of lines.  Lines of a plain or quoted scalar
are folded: one end of a line becomes a blank, of more the first is left out.
-/

namespace TableReach
namespace Document
namespace Yaml

/-- What ends of lines in a row are folded to.  Only the common end of a line gives way. -/
def fold : List Char → List Char
  | ['\n'] => [' ']
  | '\n' :: others => others
  | breaks => breaks

/-- What blanks and ends of lines between two words of a scalar stand for. -/
def foldGap (gap : List Char) : List Char :=
  let breaks := gap.filter isBreak
  if breaks.isEmpty then gap else fold breaks

/-- A character that has a meaning of its own inside brackets. -/
def isFlowMark (character : Char) : Bool :=
  [',', '[', ']', '\x7b', '\x7d'].contains character

/-- A character with which no plain scalar starts. -/
def isIndicator (character : Char) : Bool :=
  isFlowMark character ||
    ['#', '&', '*', '!', '|', '>', '\x27', '"', '%', '@', '\x60'].contains character

/-- A plain scalar starts here. -/
def startsPlain (inFlow : Bool) : List Char → Bool
  | [] => false
  | character :: rest =>
      if character == '-' then !(rest.head?.any isSpace)
      else if character == '?' || character == ':' then !inFlow && !atGap rest
      else !isGap character && !isIndicator character

/-- The next word of a plain scalar.  Inside brackets no word has a colon right before a mark. -/
def plainWord? (inFlow : Bool) : List Char → Option (List Char)
  | [] => some []
  | character :: rest =>
      if isGap character || (character == ':' && atGap rest) then some []
      else if inFlow && isFlowMark character then some []
      else if inFlow && character == ':' && rest.head?.any fun next =>
        isFlowMark next || next == '?' then none
      else (plainWord? inFlow rest).map (character :: ·)

/-- A tab stands before column `least` of a line that starts in the text.  The text stands at a
column of such a line, or at none before the first one starts. -/
def hasEarlyTab (least : Nat) : Option Nat → List Char → Bool
  | _, [] => false
  | column, character :: rest =>
      if isBreak character then hasEarlyTab least (some 0) rest
      else
        (character == '\t' && column.any (· < least)) ||
          hasEarlyTab least (column.map (· + 1)) rest

/-- A plain scalar. -/
structure Plain where
  /-- Its text. -/
  text : List Char
  /-- The place behind it and the blanks that follow. -/
  behind : Cursor
  /-- The end of a line stands among those blanks. -/
  endsLine : Bool

/-- A plain scalar behind `gap`, whose further lines start at column `least` or behind it. -/
def plain? (inFlow : Bool) (least : Nat) : Nat → List Char → Cursor → Option Plain
  | 0, _, _ => none
  | limit + 1, gap, cursor => do
      let done : Plain := { text := [], behind := cursor, endsLine := gap.any isBreak }
      if (cursor.column == 0 && atMarker cursor.rest) || cursor.rest.head? == some '#' then
        some done
      else
        let word ← plainWord? inFlow cursor.rest
        if word.isEmpty then some done
        else
          let before := foldGap gap
          let behind := cursor.advance word.length
          let nextGap := behind.rest.takeWhile isGap
          let next := behind.advance nextGap.length
          if hasEarlyTab least none nextGap then none
          else if nextGap.isEmpty || (!inFlow && next.column < least) then
            some
              { text := before ++ word
                behind := next
                endsLine := nextGap.any isBreak }
          else
            let others ← plain? inFlow least limit nextGap next
            some { others with text := before ++ word ++ others.text }

/-- The character that stands behind a backslash, and the text behind it. -/
def escape? : List Char → Option (Char × List Char)
  | [] => none
  | mark :: rest =>
      let coded (count : Nat) : Option (Char × List Char) := do
        let (code, behind) ← hexDigits? count rest
        some (← characterOf? code, behind)
      let single (code : Nat) : Option (Char × List Char) := some (Char.ofNat code, rest)
      match mark with
      | '0' => single 0
      | 'a' => single 7
      | 'b' => single 8
      | 't' => single 9
      | '\t' => single 9
      | 'n' => single 10
      | 'v' => single 11
      | 'f' => single 12
      | 'r' => single 13
      | 'e' => single 27
      | ' ' => single 32
      | '"' => single 34
      | '/' => single 47
      | '\\' => single 92
      | 'N' => single 0x85
      | '_' => single 0xA0
      | 'L' => single 0x2028
      | 'P' => single 0x2029
      | 'x' => coded 2
      | 'u' => coded 4
      | 'U' => coded 8
      | _ => none

/-- A mark of a document stands at the first column behind a gap that ends a line. -/
def isInterrupted (gap behind : List Char) : Bool :=
  gap.getLast?.any isBreak && atMarker behind

/-- A quoted scalar behind its opening quote, and the text behind it. -/
def quoted? (quote : Char) : Nat → List Char → Option (List Char × List Char)
  | 0, _ => none
  | _ + 1, [] => none
  | limit + 1, character :: rest =>
      let continueWith (found behind : List Char) : Option (List Char × List Char) :=
        (quoted? quote limit behind).map fun others => (found ++ others.1, others.2)
      if character == quote then
        if quote == '\x27' && rest.head? == some quote then continueWith [quote] (rest.drop 1)
        else some ([], rest)
      else if isGap character then
        let gap := (character :: rest).takeWhile isGap
        let behind := (character :: rest).drop gap.length
        if isInterrupted gap behind then none else continueWith (foldGap gap) behind
      else if character == '\\' && quote == '"' then
        if rest.head?.any isBreak then
          let gap := rest.takeWhile isGap
          let behind := rest.drop gap.length
          if isInterrupted gap behind then none
          else continueWith ((gap.drop 1).filter isBreak) behind
        else do
          let (value, behind) ← escape? rest
          continueWith [value] behind
      else continueWith [character] rest

/-- What is kept of the ends of lines behind a block. -/
inductive Chomping where
  /-- None of them. -/
  | strip
  /-- The first one. -/
  | clip
  /-- All of them. -/
  | keep
deriving DecidableEq

/-- The mark for what is kept at the end of a block, and the text behind it. -/
def chomping : List Char → Chomping × List Char
  | '-' :: rest => (.strip, rest)
  | '+' :: rest => (.keep, rest)
  | text => (.clip, text)

/-- The digit for the indentation of a block, which is not zero, and the text behind it. -/
def indentation? : List Char → Option (Option Nat × List Char)
  | [] => some (none, [])
  | digit :: rest =>
      if digit == '0' then none
      else if digit.isDigit then some (some (digit.toNat - '0'.toNat), rest)
      else some (none, digit :: rest)

/-- The marks behind the opening of a block, in either order: what is kept at its end, by how much
it is indented, and the text behind them. -/
def blockMarks? (text : List Char) : Option (Chomping × Option Nat × List Char) :=
  if (chomping text).1 == .clip then do
    let (indentation, rest) ← indentation? text
    if indentation.isNone then some (.clip, none, text)
    else some ((chomping rest).1, indentation, (chomping rest).2)
  else do
    let (indentation, rest) ← indentation? (chomping text).2
    some ((chomping text).1, indentation, rest)

/-- The text behind the end of a line on which only blanks and a comment may stand. -/
def nextLine? (text : List Char) : Option (List Char) :=
  let rest := text.dropWhile isSpace
  let behind :=
    if rest.head? == some '#' then rest.dropWhile fun character => !isBreak character else rest
  match behind with
  | [] => some []
  | character :: lines => if isBreak character then some lines else none

/-- What stands before a line of a block. -/
structure BlockGap where
  /-- The ends of empty lines. -/
  breaks : List Char
  /-- The column that the line starts at. -/
  column : Nat
  /-- The widest indentation of the line and the empty lines before it. -/
  widest : Nat
  /-- The line and what follows. -/
  rest : List Char

/-- The empty lines and the indentation before a line of a block.  The indentation is eaten up to a
column, or whole if none is known yet; no tab may stand in it. -/
def blockGap? (indentation : Option Nat) : Nat → Nat → List Char → Option BlockGap
  | column, widest, [] =>
      some { breaks := [], column := column, widest := max widest column, rest := [] }
  | column, widest, character :: rest =>
      let isIndented := indentation.all (column < ·)
      if isIndented && character == ' ' then blockGap? indentation (column + 1) widest rest
      else if isIndented && character == '\t' then none
      else if isBreak character then
        (blockGap? indentation 0 (max widest column) rest).map fun gap =>
          { gap with breaks := character :: gap.breaks }
      else
        some
          { breaks := []
            column := column
            widest := max widest column
            rest := character :: rest }

/-- The lines of a block. -/
structure BlockLines where
  /-- Their text up to the end of the last line. -/
  text : List Char
  /-- The end of the last line. -/
  lastBreak : List Char
  /-- The ends of the empty lines behind it. -/
  breaks : List Char
  /-- What stands behind the block. -/
  rest : List Char

/-- The lines of a block that start at a column, behind a line with an end, which starts with a
blank or not, and a gap.  An end of line between two lines that start with a text is folded if
`folds` says so. -/
def blockLines? (folds : Bool) (indentation : Nat) :
    Nat → List Char → Bool → BlockGap → Option BlockLines
  | 0, _, _, _ => none
  | limit + 1, lastBreak, lastIsBlank, gap => do
      if gap.column != indentation || gap.rest.isEmpty then
        some { text := [], lastBreak := lastBreak, breaks := gap.breaks, rest := gap.rest }
      else
        let isBlank := gap.rest.head?.any isSpace
        let before :=
          if folds && lastBreak == ['\n'] && !lastIsBlank && !isBlank then
            if gap.breaks.isEmpty then [' '] else gap.breaks
          else lastBreak ++ gap.breaks
        let line := gap.rest.takeWhile fun character => !isBreak character
        let behind := gap.rest.drop line.length
        let next ← blockGap? (some indentation) 0 0 (behind.drop 1)
        let others ← blockLines? folds indentation limit (behind.take 1) isBlank next
        some { others with text := before ++ line ++ others.text }

/-- A block of lines behind its opening mark, indented more than its surroundings, which leave it
the columns from `least` on; and the text behind it. -/
def block? (folds : Bool) (least : Nat) (text : List Char) : Option (List Char × List Char) := do
  let (chomping, indentation, rest) ← blockMarks? text
  let body ← nextLine? rest
  let known := indentation.map (least - 1 + ·)
  let gap ← blockGap? known 0 0 body
  let column := known.getD (max gap.widest (max least 1))
  let lines ← blockLines? folds column (body.length + 1) [] false gap
  let content :=
    match chomping with
    | .strip => lines.text
    | .clip => lines.text ++ lines.lastBreak
    | .keep => lines.text ++ lines.lastBreak ++ lines.breaks
  some (content, lines.rest)

end Yaml
end Document
end TableReach
