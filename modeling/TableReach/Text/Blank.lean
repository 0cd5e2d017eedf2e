/-!
# Blanks

Blank characters are those with the Unicode property `White_Space`.  This module
holds the two ways of putting a text on one line: squeezing every run of blanks
to one space and trimming the ends, and joining the words with single spaces.
-/

namespace TableReach
namespace Text

/-- A character with the property `White_Space`. -/
def isBlank (character : Char) : Bool :=
  let code := character.toNat
  (9 ≤ code && code ≤ 13) || code == 0x20 || code == 0x85 || code == 0xA0 || code == 0x1680 ||
    (0x2000 ≤ code && code ≤ 0x200A) || code == 0x2028 || code == 0x2029 || code == 0x202F ||
    code == 0x205F || code == 0x3000

/-- The text without the blanks at its start. -/
def trimLeft (text : List Char) : List Char :=
  text.dropWhile isBlank

/-- The text without the blanks at its end. -/
def trimRight : List Char → List Char
  | [] => []
  | character :: rest =>
      match trimRight rest with
      | [] => if isBlank character then [] else [character]
      | kept => character :: kept

/-- The text without the blanks at its two ends. -/
def trim (text : List Char) : List Char :=
  trimRight (trimLeft text)

/-- Every maximal run of blanks becomes one space. -/
def squeeze : List Char → List Char
  | [] => []
  | character :: rest =>
      if isBlank character then
        if (rest.head?.map isBlank).getD false then squeeze rest else ' ' :: squeeze rest
      else character :: squeeze rest

/-- Put a text on one line: blanks squeezed, ends trimmed. -/
def collapse (text : List Char) : List Char :=
  trim (squeeze text)

/-- The maximal runs of characters that are not blank, in order. -/
def words : List Char → List (List Char)
  | [] => []
  | character :: rest =>
      if isBlank character then words rest
      else if (rest.head?.map isBlank).getD true then [character] :: words rest
      else
        match words rest with
        | [] => [[character]]
        | word :: others => (character :: word) :: others

/-- Join words with single spaces. -/
def unwords : List (List Char) → List Char
  | [] => []
  | [word] => word
  | word :: others => word ++ ' ' :: unwords others

/-- Every character is blank. -/
def allBlank (text : List Char) : Bool :=
  text.all isBlank

end Text
end TableReach
