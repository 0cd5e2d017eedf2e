import TableReach.Text.Search

/-!
# Shape of a statement

A text has the shape of a data statement when it starts with one of the statement
keywords, ends in no open clause and doubles no clause keyword.
-/

namespace TableReach
namespace Template

open Text

/-- The keywords a statement can start with. -/
def openingKeywords : List (List Char) :=
  ["WITH".toList, "SELECT".toList, "INSERT".toList, "UPDATE".toList, "DELETE".toList]

/-- The keywords that leave a clause open at the end of a text. -/
def openClauses : List (List Char) :=
  ["WHERE".toList, "FROM".toList, "SET".toList]

/-- The text starts with `word` and a blank. -/
def opensWith (text word : List Char) : Bool :=
  word.isPrefixOf text && ((text.drop word.length).head?.map isBlank).getD false

/-- The text ends with a blank and `word`. -/
def closesWith (text word : List Char) : Bool :=
  word.isSuffixOf text &&
    (((text.reverse.drop word.length).head?).map isBlank).getD false

/-- The text has the shape of a data statement. -/
def hasStatementShape (text : List Char) : Bool :=
  let statement := (trim text).map Char.toUpper
  openingKeywords.any (opensWith statement) &&
    !openClauses.any (closesWith statement) &&
    !contains statement "WHERE WHERE".toList &&
    !contains statement "FROM FROM".toList

end Template
end TableReach
