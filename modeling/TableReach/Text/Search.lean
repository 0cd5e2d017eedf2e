import TableReach.Text.Blank
import TableReach.Text.Letter

/-!
# Searching a text

A recognizer looks at one position of a text.  `pieces` runs it over the whole
text from left to right: where it finds something the search goes on behind the
match, everywhere else one character is kept.  Replacing, counting and collecting
are views of the pieces.
-/

namespace TableReach
namespace Text

/-- What is found at a position, given the character before it: a value, and the text behind the
match.  A match holds at least one character. -/
abbrev Recognizer (α : Type) :=
  Option Char → List Char → Option (α × List Char)

/-- A part of a searched text. -/
inductive Piece (α : Type) where
  /-- A character outside every match. -/
  | kept (character : Char)
  /-- A match and what was found in it. -/
  | found (value : α)

/-- The pieces of a text whose first `skip` characters belong to the last match. -/
def piecesFrom
    (recognize : Recognizer α) :
    Option Char → Nat → List Char → List (Piece α)
  | _, _, [] => []
  | _, skip + 1, character :: rest => piecesFrom recognize (some character) skip rest
  | before, 0, character :: rest =>
      match recognize before (character :: rest) with
      | some (value, remaining) =>
          .found value ::
            piecesFrom recognize (some character) (rest.length - remaining.length) rest
      | none => .kept character :: piecesFrom recognize (some character) 0 rest

/-- The pieces of a text: leftmost matches that do not overlap, and the characters between. -/
def pieces
    (recognize : Recognizer α)
    (text : List Char) : List (Piece α) :=
  piecesFrom recognize none 0 text

/-- What is found, in order. -/
def Piece.values (parts : List (Piece α)) : List α :=
  parts.filterMap fun
    | .kept _ => none
    | .found value => some value

/-- The text with every match replaced by what was found in it. -/
def Piece.splice (parts : List (Piece (List Char))) : List Char :=
  parts.flatMap fun
    | .kept character => [character]
    | .found replacement => replacement

/-- Everything a recognizer finds in a text. -/
def findAll
    (recognize : Recognizer α)
    (text : List Char) : List α :=
  Piece.values (pieces recognize text)

/-- Replace every match by what was found in it. -/
def replaceAll
    (recognize : Recognizer (List Char))
    (text : List Char) : List Char :=
  Piece.splice (pieces recognize text)

/-- The text behind `word`, which is given in upper case and may be written in any case. -/
def afterKeyword? : List Char → List Char → Option (List Char)
  | [], rest => some rest
  | _ :: _, [] => none
  | letter :: word, character :: rest =>
      if fold character == letter then afterKeyword? word rest else none

/-- The text behind the characters `mark`, written exactly so. -/
def afterExact? : List Char → List Char → Option (List Char)
  | [], rest => some rest
  | _ :: _, [] => none
  | expected :: mark, character :: rest =>
      if character == expected then afterExact? mark rest else none

/-- The text behind at least one blank. -/
def afterBlanks? : List Char → Option (List Char)
  | [] => none
  | character :: rest => if isBlank character then some (trimLeft rest) else none

/-- The text before the first `mark` and the text behind it. -/
def splitAtMark? (mark : List Char) : List Char → Option (List Char × List Char)
  | [] => none
  | character :: rest =>
      match afterExact? mark (character :: rest) with
      | some remaining => some ([], remaining)
      | none => (splitAtMark? mark rest).map fun parts => (character :: parts.1, parts.2)

/-- The text behind the first place at which `ending` succeeds. -/
def afterFirst? (ending : List Char → Option (List Char)) : List Char → Option (List Char)
  | [] => ending []
  | character :: rest =>
      match ending (character :: rest) with
      | some remaining => some remaining
      | none => afterFirst? ending rest

/-- The first part of a text that `remaining` is the end of. -/
def consumed (text remaining : List Char) : List Char :=
  text.take (text.length - remaining.length)

/-- The text holds `part`. -/
def contains (text part : List Char) : Bool :=
  part.isPrefixOf text ||
    match text with
    | [] => false
    | _ :: rest => contains rest part

/-- Replace every occurrence of `mark`. -/
def replaceExact
    (mark replacement text : List Char) : List Char :=
  replaceAll (fun _ rest => (afterExact? mark rest).map fun remaining => (replacement, remaining))
    text

/-! ## Byte offsets

A place in a text is also given by the number of bytes before it.  A text can only be
cut between two characters; any other cut is a fault, and so is a difference of
offsets below zero. -/

/-- A computation with offsets that has no result. -/
inductive OffsetFault where
  /-- The part ends before it starts, or one of its ends is beyond the text or in a character. -/
  | slice (start stop : Nat)
  /-- The difference is below zero. -/
  | difference (whole part : Nat)
deriving DecidableEq

/-- The part of a text between two offsets. -/
def slice (text : String) (start stop : Nat) : Except OffsetFault String :=
  if start ≤ stop ∧ String.Pos.Raw.isValid text ⟨start⟩ ∧ String.Pos.Raw.isValid text ⟨stop⟩ then
    .ok (String.Pos.Raw.extract text ⟨start⟩ ⟨stop⟩)
  else .error (.slice start stop)

/-- The part of a text behind an offset. -/
def sliceFrom (text : String) (start : Nat) : Except OffsetFault String :=
  slice text start text.utf8ByteSize

/-- What is left of an offset without a part of it. -/
def difference (whole part : Nat) : Except OffsetFault Nat :=
  if part ≤ whole then .ok (whole - part) else .error (.difference whole part)

/-- The offset of the first `mark`. -/
def offsetOf? (mark text : String) : Option Nat :=
  (splitAtMark? mark.toList text.toList).map fun parts => (String.ofList parts.1).utf8ByteSize

/-- The offset of the first character with a property. -/
def offsetOfFirst? (holds : Char → Bool) (text : String) : Option Nat :=
  let before := text.toList.takeWhile fun character => !holds character
  if before.length < text.toList.length then some (String.ofList before).utf8ByteSize else none

end Text
end TableReach
