import TableReach.Text.Search
import TableReach.Sql.Token

/-!
# Quoted texts

Strings and quoted names: where they end, what their escapes stand for, and which
escapes are no escapes.  A text is read behind its opening quote.
-/

namespace TableReach
namespace Sql
namespace Lexer

/-- How a backslash inside a quoted text is read. -/
inductive Escapes where
  /-- As a character like any other. -/
  | none
  /-- As the start of an escape. -/
  | all
  /-- As the start of an escape, but for one before a wildcard of a pattern, which stays. -/
  | allButWildcards
deriving DecidableEq

/-- The escapes in plain strings. -/
def plainEscapes (dialect : Dialect) : Escapes :=
  if dialect.escapesWithBackslash then .allButWildcards else .none

/-- The escapes in strings that have them in every dialect. -/
def fixedEscapes (dialect : Dialect) : Escapes :=
  if dialect.escapesWithBackslash then .allButWildcards else .all

/-- The character that a backslash and this character stand for. -/
def unescape : Char → Char
  | '0' => Char.ofNat 0
  | 'a' => Char.ofNat 7
  | 'b' => Char.ofNat 8
  | 'f' => Char.ofNat 12
  | 'n' => Char.ofNat 10
  | 'r' => Char.ofNat 13
  | 't' => Char.ofNat 9
  | 'Z' => Char.ofNat 26
  | character => character

/-- The characters that a backslash and this character stand for. -/
def escaped (escapes : Escapes) (character : Char) : List Char :=
  if escapes == .allButWildcards && (character == '%' || character == '_') then ['\\', character]
  else [unescape character]

/-- The content of a quoted text, and the text behind the closing quote.  A doubled closing quote
stands for one. -/
def quotedText?
    (close : Char)
    (escapes : Escapes) : List Char → Option (List Char × List Char)
  | [] => none
  | character :: rest =>
      if character == close then
        match rest with
        | next :: behind =>
            if next == close then
              (quotedText? close escapes behind).map fun parts => (close :: parts.1, parts.2)
            else some ([], rest)
        | [] => some ([], [])
      else if character == '\\' && escapes != .none then
        match rest with
        | next :: behind =>
            (quotedText? close escapes behind).map fun parts =>
              (escaped escapes next ++ parts.1, parts.2)
        | [] => none
      else (quotedText? close escapes rest).map fun parts => (character :: parts.1, parts.2)

/-- The text behind a string without escapes, whose first quote was taken.  Three quotes open a
string that three quotes end; two are an empty string. -/
def afterRaw? (quote : Char) (rest : List Char) : Option (List Char) :=
  if rest.head? == some quote then
    if rest[1]? == some quote then
      (Text.splitAtMark? [quote, quote, quote] (rest.drop 2)).map Prod.snd
    else some (rest.drop 1)
  else (quotedText? quote .none rest).map Prod.snd

/-- A character of a hexadecimal number. -/
def isHexDigit (character : Char) : Bool :=
  character.isDigit || ('a' ≤ character && character ≤ 'f') ||
    ('A' ≤ character && character ≤ 'F')

/-- The value of a hexadecimal digit. -/
def hexDigit (character : Char) : Nat :=
  if character.isDigit then character.toNat - 48
  else character.toUpper.toNat - 55

/-- The value of hexadecimal digits. -/
def hexNumber (digits : List Char) : Nat :=
  digits.foldl (fun value digit => 16 * value + hexDigit digit) 0

/-- The value of exactly `count` hexadecimal digits at the start of a text, the first of which may
be a plus sign if that is `signed`; and the text behind. -/
def hexDigits? (signed : Bool) (count : Nat) (text : List Char) : Option (Nat × List Char) :=
  let digits := text.take count
  let unsigned := if signed && digits.head? == some '+' then digits.drop 1 else digits
  if digits.length == count && unsigned.all isHexDigit then
    some (hexNumber unsigned, text.drop count)
  else none

/-- The number is a code point of a character. -/
def isCharacterCode (code : Nat) : Bool :=
  code < 0xD800 || (0xDFFF < code && code ≤ 0x10FFFF)

/-- An octal digit. -/
def isOctalDigit (character : Char) : Bool :=
  '0' ≤ character && character ≤ '7'

/-- The character of a code point. -/
def ofCode? (code : Nat) : Option Char :=
  if isCharacterCode code then some (Char.ofNat code) else none

/-- The character that an escape stands for, whose backslash was taken, and the text behind it.  An
escape that stands for no character is none. -/
def escape? : List Char → Option (Char × List Char)
  | [] => none
  | 'b' :: rest => some (Char.ofNat 8, rest)
  | 'f' :: rest => some (Char.ofNat 12, rest)
  | 'n' :: rest => some (Char.ofNat 10, rest)
  | 'r' :: rest => some (Char.ofNat 13, rest)
  | 't' :: rest => some (Char.ofNat 9, rest)
  | 'u' :: rest => ofDigits? (hexDigits? true 4 rest)
  | 'U' :: rest => ofDigits? (hexDigits? true 8 rest)
  | 'x' :: rest =>
      let digits := (rest.take 2).takeWhile isHexDigit
      if digits.isEmpty then some ('x', rest)
      else ofByte? (hexNumber digits) (rest.drop digits.length)
  | character :: rest =>
      if isOctalDigit character then
        let digits := character :: (rest.take 2).takeWhile isOctalDigit
        ofByte? (digits.foldl (fun value digit => 8 * value + (digit.toNat - 48)) 0)
          (rest.drop (digits.length - 1))
      else some (character, rest)
where
  /-- The character of a code point. -/
  ofDigits? : Option (Nat × List Char) → Option (Char × List Char)
    | some (code, rest) => (ofCode? code).map (·, rest)
    | none => none
  /-- The ASCII character of the low byte of a number. -/
  ofByte? (number : Nat) (rest : List Char) : Option (Char × List Char) :=
    if number % 256 ≤ 127 then some (Char.ofNat (number % 256), rest) else none

/-- Put a character in front of a text and what stands behind it. -/
def withFirst (character : Char) (parts : List Char × List Char) : List Char × List Char :=
  (character :: parts.1, parts.2)

/-- The character that an escape stands for, if it is not the character of code zero. -/
def printedEscape? (text : List Char) : Option (Char × List Char) :=
  (escape? text).filter fun found => found.1.toNat != 0

/-- The character of a code point, whose backslash was taken, and the text behind it.  A second
backslash stands for itself. -/
def codePoint? : List Char → Option (Char × List Char)
  | '\\' :: rest => some ('\\', rest)
  | '+' :: digits => escape?.ofDigits? (hexDigits? false 6 digits)
  | digits => escape?.ofDigits? (hexDigits? false 4 digits)

/-- A string in single quotes and the text behind it, in at most `limit` steps.  What stands behind
a backslash is read by `escape`. -/
def textWith?
    (escape : List Char → Option (Char × List Char)) :
    Nat → List Char → Option (List Char × List Char)
  | 0, _ => none
  | _ + 1, [] => none
  | limit + 1, '\x27' :: rest =>
      if rest.head? == some '\x27' then
        (textWith? escape limit (rest.drop 1)).map (withFirst '\x27')
      else some ([], rest)
  | limit + 1, '\\' :: rest =>
      match escape rest with
      | some (character, behind) => (textWith? escape limit behind).map (withFirst character)
      | none => none
  | limit + 1, character :: rest => (textWith? escape limit rest).map (withFirst character)

/-- A string with escapes and the text behind it, in at most `limit` steps. -/
def escapedText? : Nat → List Char → Option (List Char × List Char) :=
  textWith? printedEscape?

/-- A string with code points and the text behind it, in at most `limit` steps. -/
def unicodeText? : Nat → List Char → Option (List Char × List Char) :=
  textWith? codePoint?

/-- The content of a block comment and the text behind it; the comment is open `depth` times, and
`before` is the last character that is no part of a mark. -/
def comment? (nested : Bool) : Char → Nat → List Char → Option (List Char × List Char)
  | _, _, [] => none
  | before, depth, character :: rest =>
      if before == '*' && character == '/' then
        if depth ≤ 1 then some ([], rest)
        else (comment? nested ' ' (depth - 1) rest).map fun parts => (character :: parts.1, parts.2)
      else if nested && before == '/' && character == '*' then
        (comment? nested ' ' (depth + 1) rest).map fun parts => (character :: parts.1, parts.2)
      else
        (comment? nested character depth rest).map fun parts => (character :: parts.1, parts.2)

end Lexer
end Sql
end TableReach
