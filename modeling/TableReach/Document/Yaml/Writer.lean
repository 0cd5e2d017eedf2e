import TableReach.Document.Yaml.Cursor
import TableReach.Document.Yaml.OpenType

/-!
# Writing YAML

Tables and lists are laid out by lines.  A text is written plain where it reads back
as the same text, else in single quotes, in double quotes with escapes, or, if it
has several lines, as a block of lines.
-/

namespace TableReach
namespace Document
namespace Yaml

/-- How a scalar is written. -/
inductive Style where
  /-- As it is. -/
  | plain
  /-- Between single quotes. -/
  | single
  /-- Between double quotes, with escapes. -/
  | double
  /-- As a block of lines. -/
  | block
deriving DecidableEq

/-- A character that is written as it is. -/
def isPrintable (character : Char) : Bool :=
  character == '\n' || (' ' ≤ character && character ≤ '~') ||
    (0xA0 ≤ character.toNat && character.toNat != 0xFEFF && character.toNat != 0xFFFE &&
      character.toNat != 0xFFFF)

/-- The text ends here, or a blank comes next. -/
def blankNext : List Char → Bool
  | [] => true
  | character :: _ =>
      character == ' ' || character == '\t' || isBreak character || character.toNat == 0

/-- Two neighbours in a text satisfy a condition. -/
def anyNeighbours (condition : Char → Char → Bool) (text : List Char) : Bool :=
  (text.zip (text.drop 1)).any fun pair => condition pair.1 pair.2

/-- A colon before a blank, or a hash behind one, stands in the text. -/
def hasInnerMark : Bool → List Char → Bool
  | _, [] => false
  | afterBlank, character :: rest =>
      (character == ':' && blankNext rest) || (character == '#' && afterBlank) ||
        hasInnerMark (blankNext [character]) rest

/-- The text starts with something that has a meaning of its own. -/
def hasLeadingMark (text : List Char) : Bool :=
  text.take 3 == "---".toList || text.take 3 == "...".toList ||
    match text with
    | [] => false
    | first :: rest =>
        ("#,[]\x7b\x7d&*!|>'\"%@`".toList.contains first) ||
          ((first == '?' || first == '-') && blankNext rest)

/-- The text holds a character that is not written as it is. -/
def hasSpecial (text : List Char) : Bool :=
  text.any fun character => !isPrintable character

/-- A blank stands before the end of a line. -/
def hasBlankBeforeBreak (text : List Char) : Bool :=
  anyNeighbours (fun first second => first == ' ' && isBreak second) text

/-- A line starts with a blank. -/
def hasBlankAfterBreak (text : List Char) : Bool :=
  anyNeighbours (fun first second => isBreak first && second == ' ') text

/-- The text may be written as it is. -/
def allowsPlain (text : List Char) : Bool :=
  text.head? != some ' ' && text.getLast? != some ' ' && !text.any isBreak && !hasSpecial text &&
    !hasLeadingMark text && !hasInnerMark true text

/-- The text may be written between single quotes. -/
def allowsSingle (text : List Char) : Bool :=
  !hasBlankAfterBreak text && !hasBlankBeforeBreak text && !hasSpecial text

/-- The text may be written as a block of lines. -/
def allowsBlock (text : List Char) : Bool :=
  text.getLast? != some ' ' && !hasBlankBeforeBreak text && !hasSpecial text

/-- Single quotes if they are allowed, else double quotes. -/
def quotedStyle (text : List Char) : Style :=
  if allowsSingle text then .single else .double

/-- How a text is written. -/
def styleOf (text : String) : Style :=
  if text.toList.contains '\n' then if allowsBlock text.toList then .block else .double
  else if isAmbiguous text || !allowsPlain text.toList then quotedStyle text.toList
  else .plain

/-- The digits of a code in hexadecimal. -/
def hexadecimal (width : Nat) (code : Nat) : List Char :=
  let digits := (Nat.toDigits 16 code).map Char.toUpper
  List.replicate (width - digits.length) '0' ++ digits

/-- A character between double quotes. -/
def escape (character : Char) : List Char :=
  let code := character.toNat
  match code with
  | 0x00 => "\\0".toList
  | 0x07 => "\\a".toList
  | 0x08 => "\\b".toList
  | 0x09 => "\\t".toList
  | 0x0A => "\\n".toList
  | 0x0B => "\\v".toList
  | 0x0C => "\\f".toList
  | 0x0D => "\\r".toList
  | 0x1B => "\\e".toList
  | 0x22 => "\\\"".toList
  | 0x5C => "\\\\".toList
  | 0x85 => "\\N".toList
  | 0x2028 => "\\L".toList
  | 0x2029 => "\\P".toList
  | _ =>
      if isPrintable character then [character]
      else if code ≤ 0xFF then "\\x".toList ++ hexadecimal 2 code
      else if code ≤ 0xFFFF then "\\u".toList ++ hexadecimal 4 code
      else "\\U".toList ++ hexadecimal 8 code

/-- The start of a line. -/
def margin (indentation : Nat) : List Char :=
  List.replicate indentation ' '

/-- A text between single quotes; behind the end of a line it is indented. -/
def singleBody (indentation : Nat) : Bool → List Char → List Char
  | atStart, [] => if atStart then margin indentation else []
  | atStart, character :: rest =>
      if isBreak character then character :: singleBody indentation true rest
      else
        (if atStart then margin indentation else []) ++
          (if character == '\x27' then ['\x27', '\x27'] else [character]) ++
            singleBody indentation false rest

/-- The lines of a block, each indented. -/
def blockBody (indentation : Nat) : Bool → List Char → List Char
  | _, [] => []
  | atStart, character :: rest =>
      if isBreak character then character :: blockBody indentation true rest
      else
        (if atStart then margin indentation else []) ++
          character :: blockBody indentation false rest

/-- The marks of a block: whether it starts with a blank, and what stands at its end. -/
def blockMarks (text : List Char) : List Char :=
  let leading :=
    match text with
    | [] => []
    | first :: _ => if first == ' ' || isBreak first then ['2'] else []
  let trailing :=
    match text.reverse with
    | [] => ['-']
    | [only] => if isBreak only then ['+'] else ['-']
    | last :: previous :: _ =>
        if !isBreak last then ['-'] else if isBreak previous then ['+'] else []
  leading ++ trailing

/-- A text in some style, inside something indented by `indentation`. -/
def writeText (style : Style) (indentation : Nat) (text : List Char) : List Char :=
  match style with
  | .plain => text
  | .single => '\x27' :: singleBody (indentation + 2) false text ++ ['\x27']
  | .double => '"' :: text.flatMap escape ++ ['"']
  | .block =>
      let body := blockBody (indentation + 2) true text
      let ending := if text.getLast? == some '\n' then body.dropLast else body
      '|' :: blockMarks text ++ '\n' :: ending

/-- A value on one line, inside something indented by `indentation`. -/
def writeScalar (indentation : Nat) : Document → List Char
  | .string text => writeText (styleOf text) indentation text.toList
  | .plain text => text.toList
  | .tagged _ _ text => writeText (styleOf text) indentation text.toList
  | .letter value => writeText (quotedStyle [value]) indentation [value]
  | .bool value => (toString value).toList
  | .integer value => (toString value).toList
  | .list _ => "[]".toList
  | .table _ => "\x7b\x7d".toList
  | .null => "null".toList
  | .other => "null".toList

/-- Put the mark of an item at the start of its first line. -/
def markItem (indentation : Nat) : List (List Char) → List (List Char)
  | [] => []
  | first :: others =>
      (margin indentation ++ '-' :: ' ' :: first.drop (indentation + 2)) :: others

mutual

/-- The lines of a table. -/
def entryLines (indentation : Nat) : List (String × Document) → List (List Char)
  | [] => []
  | (key, value) :: others =>
      let head := margin indentation ++ writeText (styleOf key) indentation key.toList ++ [':']
      valueLines indentation head value ++ entryLines indentation others

/-- The lines of a value behind its key. -/
def valueLines (indentation : Nat) (head : List Char) : Document → List (List Char)
  | .table (entry :: entries) => head :: entryLines (indentation + 2) (entry :: entries)
  | .list (item :: items) => head :: itemLines indentation (item :: items)
  | value => [head ++ ' ' :: writeScalar indentation value]

/-- The lines of a list. -/
def itemLines (indentation : Nat) : List Document → List (List Char)
  | [] => []
  | .table (entry :: entries) :: others =>
      markItem indentation (entryLines (indentation + 2) (entry :: entries)) ++
        itemLines indentation others
  | .list (item :: items) :: others =>
      markItem indentation (itemLines (indentation + 2) (item :: items)) ++
        itemLines indentation others
  | value :: others =>
      (margin indentation ++ '-' :: ' ' :: writeScalar indentation value) ::
        itemLines indentation others

end

/-- The text of a document. -/
def write (document : Document) : String :=
  let lines :=
    match document with
    | .table (entry :: entries) => entryLines 0 (entry :: entries)
    | .list (item :: items) => itemLines 0 (item :: items)
    | value => [writeScalar 0 value]
  String.ofList (lines.flatMap fun line => line ++ ['\n'])

end Yaml
end Document
end TableReach
