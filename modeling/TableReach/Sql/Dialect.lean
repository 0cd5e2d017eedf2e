import TableReach.Text.Blank
import TableReach.Text.Letter

/-!
# Dialects

The dialects of the query language that statements can be written in, and which
characters make up a name in each of them.
-/

namespace TableReach
namespace Sql

/-- A dialect of the query language. -/
inductive Dialect where
  | generic
  | mysql
  | postgresql
  | sqlite
deriving DecidableEq

namespace Dialect

/-- Every dialect. -/
def all : List Dialect :=
  [generic, mysql, postgresql, sqlite]

/-- The name of a dialect. -/
def name : Dialect → String
  | generic => "generic"
  | mysql => "mysql"
  | postgresql => "postgresql"
  | sqlite => "sqlite"

/-- The dialect of exactly this name. -/
def ofExactName? (text : String) : Option Dialect :=
  all.find? fun dialect => dialect.name == text

/-- The dialect of this name in any case, with blanks around it allowed.  `postgres` is a second
name of `postgresql`. -/
def ofName? (text : String) : Option Dialect :=
  let folded := Text.lowerAscii (String.ofList (Text.trim text.toList))
  if folded == "postgres" then some postgresql else ofExactName? folded

/-- A code point beyond ASCII. -/
def isBeyondAscii (character : Char) : Bool :=
  128 ≤ character.toNat

/-- The character can start a name that is not quoted. -/
def startsName : Dialect → Char → Bool
  | generic, character =>
      Text.isAlphabetic character || character == '_' || character == '#' || character == '@'
  | mysql, character =>
      Text.isAlphabetic character || character == '_' || character == '$' || character == '@' ||
        isBeyondAscii character
  | postgresql, character =>
      Text.isAlphabetic character || character == '_' || isBeyondAscii character
  | sqlite, character =>
      character.isAlpha || character == '_' ||
        (0x7F ≤ character.toNat && character.toNat ≤ 0xFFFF)

/-- The character can stand in a name that is not quoted. -/
def continuesName : Dialect → Char → Bool
  | generic, character =>
      Text.isAlphabetic character || character.isDigit || character == '@' || character == '$' ||
        character == '#' || character == '_'
  | mysql, character => startsName mysql character || character.isDigit
  | postgresql, character =>
      startsName postgresql character || character.isDigit || character == '$'
  | sqlite, character => startsName sqlite character || character.isDigit

/-- The character opens a quoted name. -/
def opensQuotedName : Dialect → Char → Bool
  | generic, character => character == '"' || character == '\x60'
  | mysql, character => character == '\x60'
  | postgresql, character => character == '"'
  | sqlite, character => character == '"' || character == '\x60' || character == '['

/-- A backslash in a string escapes the next character. -/
def escapesWithBackslash (dialect : Dialect) : Bool :=
  dialect == mysql

/-- A name can start with digits. -/
def namesStartWithDigits (dialect : Dialect) : Bool :=
  dialect == mysql

/-- Block comments can be nested. -/
def nestsComments (dialect : Dialect) : Bool :=
  dialect == generic || dialect == postgresql

/-- The character can extend an operator. -/
def extendsOperator (dialect : Dialect) (character : Char) : Bool :=
  dialect == postgresql && "+-*/<>=~!@#%^&|\x60?".toList.contains character

end Dialect
end Sql
end TableReach
