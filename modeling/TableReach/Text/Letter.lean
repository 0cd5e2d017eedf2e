import TableReach.Text.Ranges

/-!
# Letters, digits and word characters

Character classes as Unicode defines them, and the two case rules the library
needs: folding a character so that a keyword is found in any case, and writing a
text in upper case.
-/

namespace TableReach
namespace Text

/-- A character with the property `Alphabetic`. -/
def isAlphabetic (character : Char) : Bool :=
  if character.toNat < 128 then character.isAlpha
  else inRanges alphabeticRanges character.toNat

/-- A character of the general category `N`. -/
def isNumeric (character : Char) : Bool :=
  if character.toNat < 128 then character.isDigit
  else inRanges numericRanges character.toNat

/-- A character that can stand in a word: alphabetic, mark, decimal digit, connector or joiner. -/
def isWord (character : Char) : Bool :=
  if character.toNat < 128 then character.isAlphanum || character == '_'
  else inRanges wordRanges character.toNat

/-- No word runs on from before this position into a keyword that starts here. -/
def startsWord (before : Option Char) : Bool :=
  !(before.map isWord).getD false

/-- No word runs on past a keyword that ends here. -/
def endsWord (rest : List Char) : Bool :=
  !(rest.head?.map isWord).getD false

/-- The upper-case ASCII letter that a character is equal to when case is ignored, or the
character itself.  Beyond ASCII only the long s and the Kelvin sign fold to an ASCII letter. -/
def fold (character : Char) : Char :=
  if character == 'ſ' then 'S'
  else if character == 'K' then 'K'
  else character.toUpper

/-- ASCII letters in upper case, all else unchanged. -/
def upperAscii (text : String) : String :=
  String.ofList (text.toList.map Char.toUpper)

/-- ASCII letters in lower case, all else unchanged. -/
def lowerAscii (text : String) : String :=
  String.ofList (text.toList.map Char.toLower)

/-- The upper-case form of one character as far as it holds ASCII letters: of the characters
beyond ASCII those are listed whose full upper-case form has one. -/
def upperLetters (character : Char) : List Char :=
  match character with
  | 'ı' => ['I']
  | 'ſ' => ['S']
  | 'ß' => ['S', 'S']
  | 'ŉ' => ['ʼ', 'N']
  | 'ǰ' => ['J', '̌']
  | 'ẖ' => ['H', '̱']
  | 'ẗ' => ['T', '̈']
  | 'ẘ' => ['W', '̊']
  | 'ẙ' => ['Y', '̊']
  | 'ẚ' => ['A', 'ʾ']
  | 'ﬀ' => ['F', 'F']
  | 'ﬁ' => ['F', 'I']
  | 'ﬂ' => ['F', 'L']
  | 'ﬃ' => ['F', 'F', 'I']
  | 'ﬄ' => ['F', 'F', 'L']
  | 'ﬅ' => ['S', 'T']
  | 'ﬆ' => ['S', 'T']
  | _ => [character.toUpper]

/-- The text in upper case as far as ASCII letters are concerned. -/
def upper (text : List Char) : List Char :=
  text.flatMap upperLetters

end Text
end TableReach
