import TableReach.Sql.Dialect

/-!
# Tokens

A statement is read as a list of lexemes.  A lexeme is a token together with the
keyword it may stand for and whether blanks or a comment stand before it.
-/

namespace TableReach
namespace Sql

/-- The kinds of literals that are neither numbers nor plain strings. -/
inductive LiteralKind where
  /-- A string of the national character set. -/
  | national
  /-- Bytes written as hexadecimal digits. -/
  | hexadecimal
  /-- A string with escapes that start with a backslash. -/
  | escaped
  /-- A string with code points written as hexadecimal digits. -/
  | unicode
  /-- A string between tags that start and end with a dollar sign. -/
  | tagged
  /-- A string of bytes or bits. -/
  | bytes
  /-- A string without escapes. -/
  | raw
deriving DecidableEq

/-- A token of the query language. -/
inductive Token where
  /-- A name or keyword; `quote` is the character that opens it, if it is quoted. -/
  | word (text : String) (quote : Option Char)
  /-- A number; a `long` one ends with a mark that says so. -/
  | number (text : String) (long : Bool)
  /-- A string in single quotes. -/
  | singleQuoted (text : String)
  /-- A string in double quotes, where these do not quote names. -/
  | doubleQuoted (text : String)
  /-- A literal of another kind; the text is that of a string with escapes, else it is empty. -/
  | literal (kind : LiteralKind) (text : String)
  /-- A place for a parameter. -/
  | placeholder (text : String)
  /-- An operator or a mark. -/
  | symbol (text : String)
  /-- An operator that the user has defined. -/
  | operator (text : String)
deriving DecidableEq

/-- A token in its place. -/
structure Lexeme where
  /-- The token. -/
  token : Token
  /-- An unquoted word in upper case, empty for all else. -/
  keyword : String
  /-- The token stands first or behind blanks or a comment. -/
  spaced : Bool
deriving DecidableEq

/-- The keyword that a token can stand for. -/
def Token.keyword : Token → String
  | .word text none => String.ofList (Text.upper text.toList)
  | _ => ""

/-- The token is a name or keyword. -/
def Token.isWord : Token → Bool
  | .word _ _ => true
  | _ => false

/-- The lexeme is the keyword `word`. -/
def Lexeme.spells (lexeme : Lexeme) (word : String) : Bool :=
  lexeme.token.isWord && lexeme.keyword == word

end Sql
end TableReach
