import TableReach.Text.Search

/-!
# Template markup

Statement texts are kept in mapping files as templates: placeholders stand for
parameters, elements choose or repeat parts, and sections protect text from being
read as markup.  This module recognizes each kind of markup at a position of a
text and says what stands in its place.
-/

namespace TableReach
namespace Template

open Text

/-- The text behind the first `>`. -/
def afterTagEnd? (text : List Char) : Option (List Char) :=
  (splitAtMark? ['>'] text).map Prod.snd

/-- The text behind an opening `<name`, where no longer name starts. -/
def afterTagName? (name text : List Char) : Option (List Char) := do
  let rest ← afterExact? ['<'] text
  let rest ← afterKeyword? name rest
  if endsWord rest then some rest else none

/-- The text behind a closing tag `</name>`. -/
def afterClosingTag? (name text : List Char) : Option (List Char) := do
  let rest ← afterExact? ['<', '/'] text
  let rest ← afterKeyword? name rest
  afterExact? ['>'] (trimLeft rest)

/-- The text behind an element from its opening tag to the first closing tag of its name. -/
def afterElement? (name text : List Char) : Option (List Char) := do
  let rest ← afterTagName? name text
  let body ← afterTagEnd? rest
  afterFirst? (afterClosingTag? name) body

/-- A protected section stands for its body, with the markup characters escaped. -/
def protectedSection : Recognizer (List Char) := fun _ text => do
  let body ← afterExact? "<![CDATA[".toList text
  let (inside, rest) ← splitAtMark? "]]>".toList body
  let escaped := replaceExact ['&'] "&amp;".toList inside
  let escaped := replaceExact ['<'] "&lt;".toList escaped
  some (replaceExact ['>'] "&gt;".toList escaped, rest)

/-- A placeholder, `#` or `$` before a braced name, stands for the number one. -/
def placeholder : Recognizer (List Char)
  | _, mark :: '\x7b' :: rest =>
      if mark == '#' || mark == '$' then
        (splitAtMark? ['\x7d'] rest).map fun parts => (['1'], parts.2)
      else none
  | _, _ => none

/-- A comment stands for a space. -/
def comment : Recognizer (List Char) := fun _ text => do
  let body ← afterExact? "<!--".toList text
  let (_, rest) ← splitAtMark? "-->".toList body
  some ([' '], rest)

/-- A key selection is no part of the statement: the whole element stands for a space. -/
def keySelection : Recognizer (List Char) := fun _ text =>
  (afterElement? "SELECTKEY".toList text).map fun rest => ([' '], rest)

/-- A repetition stands for a list of one item. -/
def repetition : Recognizer (List Char) := fun _ text =>
  (afterElement? "FOREACH".toList text).map fun rest => (" (1) ".toList, rest)

/-- An opening tag without attributes stands for a keyword. -/
def keywordTag (name : List Char) : Recognizer (List Char) := fun _ text => do
  let rest ← afterExact? ['<'] text
  let rest ← afterKeyword? name rest
  let rest ← afterExact? ['>'] (trimLeft rest)
  some (' ' :: name ++ [' '], rest)

/-- The value of an attribute `prefix` that stands here, and the text behind its tag. -/
def leadingText?
    (before : Option Char)
    (text : List Char) : Option (List Char × List Char) := do
  let rest ← if startsWord before then afterKeyword? "PREFIX".toList text else none
  let rest ← afterExact? ['='] (trimLeft rest)
  let rest ← afterExact? ['"'] (trimLeft rest)
  let (value, rest) ← splitAtMark? ['"'] rest
  let rest ← afterTagEnd? rest
  some (value, rest)

/-- The value of the first attribute `prefix` before the tag ends, and the text behind the tag. -/
def findLeadingText? : Option Char → List Char → Option (List Char × List Char)
  | _, [] => none
  | before, character :: rest =>
      match leadingText? before (character :: rest) with
      | some found => some found
      | none => if character == '>' then none else findLeadingText? (some character) rest

/-- An opening `trim` tag stands for the text it puts in front. -/
def trimTag : Recognizer (List Char) := fun _ text => do
  let rest ← afterTagName? "TRIM".toList text
  let (value, rest) ← findLeadingText? (some 'm') rest
  some (' ' :: value ++ [' '], rest)

/-- A character of a tag name or attribute name. -/
def isTagNameCharacter (character : Char) : Bool :=
  isWord character || character == '.' || character == ':' || character == '-'

/-- The text behind blanks, an attribute name and its quoted value. -/
def afterAttribute? (text : List Char) : Option (List Char) := do
  let rest ← afterBlanks? text
  let _ ← rest.head?.filter isTagNameCharacter
  let rest ← afterExact? ['='] (trimLeft (rest.dropWhile isTagNameCharacter))
  match trimLeft rest with
  | '"' :: value => (splitAtMark? ['"'] value).map Prod.snd
  | '\x27' :: value => (splitAtMark? ['\x27'] value).map Prod.snd
  | _ => none

/-- The text behind at most `limit` attributes. -/
def afterAttributes : Nat → List Char → List Char
  | 0, text => text
  | limit + 1, text =>
      match afterAttribute? text with
      | some rest => afterAttributes limit rest
      | none => text

/-- The text behind `mark` if it stands here, else the text. -/
def skipMark (mark : Char) : List Char → List Char
  | [] => []
  | character :: rest => if character == mark then rest else character :: rest

/-- Any other tag, opening or closing, stands for a space. -/
def anyTag : Recognizer (List Char) := fun _ text => do
  let rest ← afterExact? ['<'] text
  let name := skipMark '/' rest
  let _ ← name.head?.filter Char.isAlpha
  let rest := name.dropWhile isTagNameCharacter
  let rest := trimLeft (afterAttributes rest.length rest)
  let rest ← afterExact? ['>'] (skipMark '/' rest)
  some ([' '], rest)

/-- The mark of a section without its partner stands for a space. -/
def strayMark : Recognizer (List Char) := fun _ text =>
  match afterExact? "<![CDATA[".toList text with
  | some rest => some ([' '], rest)
  | none => (afterExact? "]]>".toList text).map fun rest => ([' '], rest)

/-- Character entities with the characters they stand for.  The ampersand is last, so that an
escaped entity is read only once. -/
def entities : List (String × Char) :=
  [("&lt;", '<'), ("&gt;", '>'), ("&quot;", '"'), ("&apos;", '\x27'), ("&amp;", '&')]

/-- The text with its character entities read. -/
def readEntities (text : List Char) : List Char :=
  entities.foldl (fun current entity => replaceExact entity.1.toList [entity.2] current) text

end Template
end TableReach
