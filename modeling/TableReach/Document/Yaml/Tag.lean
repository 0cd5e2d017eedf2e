import TableReach.Document.Scan
import TableReach.Document.Yaml.Cursor

/-!
# Names, tags and directives of YAML

A node may carry a name, under which it is repeated elsewhere, and a tag, which
names its type.  A tag is a handle and a suffix; directives before a document give
its version and say what handles stand for.
-/

namespace TableReach
namespace Document
namespace Yaml

/-- A character of a word: a letter, a digit or one of two marks. -/
def isWordCharacter (character : Char) : Bool :=
  character.isAlphanum || character == '_' || character == '-'

/-- The name of a node behind its mark, and the text behind it. -/
def nodeName? (text : List Char) : Option (String × List Char) :=
  let name := text.takeWhile isWordCharacter
  let behind := text.drop name.length
  let ends :=
    atGap behind ||
      behind.head?.any fun next => ['?', ':', ',', ']', '\x7d', '%', '@', '\x60'].contains next
  if !name.isEmpty && ends then some (String.ofList name, behind) else none

/-- A byte written as a percent sign and two hexadecimal digits, and the text behind it. -/
def escapedByte? : List Char → Option (Nat × List Char)
  | '%' :: rest => hexDigits? 2 rest
  | _ => none

/-- Further bytes of a character, six bits each, and the text behind them. -/
def escapedTail? : Nat → Nat → List Char → Option (Nat × List Char)
  | 0, code, text => some (code, text)
  | count + 1, code, text => do
      let (byte, rest) ← escapedByte? text
      if byte / 64 == 2 then escapedTail? count (code * 64 + byte % 64) rest else none

/-- A character written as its bytes, and the text behind it. -/
def escapedCharacter? (text : List Char) : Option (Char × List Char) := do
  let (byte, rest) ← escapedByte? text
  let (code, behind) ←
    if byte < 0x80 then some (byte, rest)
    else if byte / 32 == 6 then escapedTail? 1 (byte % 32) rest
    else if byte / 16 == 14 then escapedTail? 2 (byte % 16) rest
    else if byte / 8 == 30 then escapedTail? 3 (byte % 8) rest
    else none
  some (Char.ofNat code, behind)

/-- A character that stands for itself in a tag.  Some stand only in a tag between brackets or
behind a handle that is being declared. -/
def isTagCharacter (isWhole : Bool) (character : Char) : Bool :=
  isWordCharacter character ||
    [';', '/', '?', ':', '@', '&', '=', '+', '$', '.', '!', '~', '*', '\x27', '(', ')'].contains
      character ||
    (isWhole && [',', '[', ']'].contains character)

/-- The characters of a tag, and the text behind them. -/
def tagCharacters? (isWhole : Bool) : Nat → List Char → Option (List Char × List Char)
  | 0, text => some ([], text)
  | limit + 1, text =>
      match text with
      | [] => some ([], [])
      | character :: rest => do
          if character == '%' then
            let (decoded, behind) ← escapedCharacter? text
            let (others, last) ← tagCharacters? isWhole limit behind
            some (decoded :: others, last)
          else if isTagCharacter isWhole character then
            let (others, last) ← tagCharacters? isWhole limit rest
            some (character :: others, last)
          else some ([], text)

/-- The characters of a tag, of which there is at least one, and the text behind them. -/
def tagText? (isWhole : Bool) (text : List Char) : Option (List Char × List Char) := do
  let (found, behind) ← tagCharacters? isWhole text.length text
  if behind.length < text.length then some (found, behind) else none

/-- The word behind an exclamation mark, a second one if it stands there, and the text behind
them. -/
def handle (text : List Char) : List Char × Bool × List Char :=
  let word := text.takeWhile isWordCharacter
  let behind := text.drop word.length
  if behind.head? == some '!' then (word, true, behind.drop 1) else (word, false, behind)

/-- A tag: what its handle stands for is said elsewhere, and without a handle the suffix is the
whole tag. -/
structure Tag where
  /-- The handle. -/
  handle : String
  /-- The suffix. -/
  suffix : String

/-- A tag behind its exclamation mark, and the text behind it. -/
def tag? (inFlow : Bool) (text : List Char) : Option (Tag × List Char) := do
  let (tag, behind) ←
    match text with
    | '<' :: rest => do
        let (whole, behind) ← tagText? true rest
        if behind.head? == some '>' then some (Tag.mk "" (String.ofList whole), behind.drop 1)
        else none
    | _ => do
        let (word, isClosed, behind) := handle text
        if isClosed then
          let (suffix, last) ← tagText? false behind
          some (Tag.mk (String.ofList ('!' :: word ++ ['!'])) (String.ofList suffix), last)
        else
          let (others, last) ← tagCharacters? false behind.length behind
          let suffix := word ++ others
          if suffix.isEmpty then some (Tag.mk "" "!", last)
          else some (Tag.mk "!" (String.ofList suffix), last)
  if atGap behind || (inFlow && behind.head? == some ',') then some (tag, behind) else none

/-- What is said before a document. -/
inductive Directive where
  /-- The version that it is written in. -/
  | version (major minor : Nat)
  /-- What a handle stands for. -/
  | handle (name start : String)

/-- A number of at most nine digits, and the text behind it. -/
def versionPart? (text : List Char) : Option (Nat × List Char) := do
  let digits := text.takeWhile Char.isDigit
  if digits.isEmpty || 9 < digits.length then none
  else some (← number? 10 digits, text.drop digits.length)

/-- A version, and the text behind it. -/
def version? (text : List Char) : Option (Directive × List Char) := do
  let (major, rest) ← versionPart? (text.dropWhile isSpace)
  if rest.head? != some '.' then none
  else
    let (minor, behind) ← versionPart? (rest.drop 1)
    some (.version major minor, behind)

/-- What a handle stands for, and the text behind it. -/
def handleMeaning? (text : List Char) : Option (Directive × List Char) := do
  match text.dropWhile isSpace with
  | '!' :: rest =>
      let (word, isClosed, behind) := handle rest
      let name := '!' :: word ++ if isClosed then ['!'] else []
      if (!isClosed && !word.isEmpty) || !behind.head?.any isSpace then none
      else
        let (start, last) ← tagText? true (behind.dropWhile isSpace)
        if atGap last then
          some (.handle (String.ofList name) (String.ofList start), last)
        else none
  | _ => none

/-- A directive behind its percent sign, and the text behind it. -/
def directive? (text : List Char) : Option (Directive × List Char) :=
  let name := text.takeWhile isWordCharacter
  let rest := text.drop name.length
  if !atGap rest then none
  else if name == "YAML".toList then version? rest
  else if name == "TAG".toList then handleMeaning? rest
  else none

end Yaml
end Document
end TableReach
