import TableReach.Sql.Lexer.Number

/-!
# Reading tokens

`lexemes?` splits a text into lexemes.  It fails on a string, quoted name or
comment without an end.  The rules differ between dialects: what quotes a name,
which comments there are, whether a name may start with digits.
-/

namespace TableReach
namespace Sql

open Text Lexer

namespace Lexer

/-- A string between tags that start with a dollar sign, or a place for a parameter. -/
def scanDollar (dialect : Dialect) (rest : List Char) : Scan :=
  let isTag (character : Char) : Bool :=
    isAlphabetic character || isNumeric character || character == '_' ||
      (dialect == .sqlite && character == '$')
  let tag := rest.takeWhile isTag
  match rest.dropWhile isTag with
  | '$' :: body =>
      Scan.ofLiteral .tagged ((splitAtMark? ('$' :: tag ++ ['$']) body).map Prod.snd)
  | behind => some (.placeholder (String.ofList ('$' :: tag)), behind)

/-- A string in single quotes behind a letter, or a word that starts with the letter.  `kinds`
says in which dialects the letter marks a string. -/
def scanMarkedString
    (dialect : Dialect)
    (kinds : List Dialect)
    (kind : LiteralKind)
    (ending : List Char → Option (List Char))
    (letter : Char)
    (rest : List Char) : Scan :=
  match rest with
  | '\x27' :: body =>
      if kinds.contains dialect then Scan.ofLiteral kind (ending body)
      else scanWord dialect [letter] rest
  | _ => scanWord dialect [letter] rest

/-- A string behind a letter, in single or double quotes. -/
def scanEitherString
    (dialect : Dialect)
    (kinds : List Dialect)
    (kind : LiteralKind)
    (ending : Char → List Char → Option (List Char))
    (letter : Char)
    (rest : List Char) : Scan :=
  match rest with
  | '"' :: body =>
      if kinds.contains dialect then Scan.ofLiteral kind (ending '"' body)
      else scanWord dialect [letter] rest
  | _ => scanMarkedString dialect kinds kind (ending '\x27') letter rest

/-- The text behind a quoted text. -/
def afterQuoted? (escapes : Escapes) (close : Char) (body : List Char) : Option (List Char) :=
  (quotedText? close escapes body).map Prod.snd

/-- A word or string that starts with a letter which can mark a string; none for other letters. -/
def scanLetter (dialect : Dialect) (letter : Char) (rest : List Char) : Option Scan :=
  match letter.toUpper with
  | 'B' =>
      some (scanEitherString dialect [.generic, .mysql, .postgresql] .bytes (afterQuoted? .none)
        letter rest)
  | 'R' => some (scanEitherString dialect [.generic] .raw afterRaw? letter rest)
  | 'N' =>
      some (scanMarkedString dialect Dialect.all .national
        (afterQuoted? (plainEscapes dialect) '\x27') letter rest)
  | 'E' =>
      match rest with
      | '\x27' :: body =>
          if dialect == .generic || dialect == .postgresql then
            some (Scan.ofText .escaped (escapedText? (body.length + 1) body))
          else some (scanWord dialect [letter] rest)
      | _ => some (scanWord dialect [letter] rest)
  | 'U' =>
      match rest with
      | '&' :: '\x27' :: body =>
          if dialect == .generic || dialect == .postgresql then
            some (Scan.ofText .unicode (unicodeText? (body.length + 1) body))
          else some (scanWord dialect [letter] rest)
      | _ => some (scanWord dialect [letter] rest)
  | 'X' =>
      some (scanMarkedString dialect Dialect.all .hexadecimal
        (afterQuoted? (fixedEscapes dialect) '\x27') letter rest)
  | _ => none

/-- The token at the start of a text that starts with neither a blank nor a comment. -/
def scanToken
    (dialect : Dialect)
    (previous : Option Token)
    (character : Char)
    (rest : List Char) : Scan :=
  match scanLetter dialect character rest with
  | some scan => scan
  | none =>
      if character == '\x27' then
        (quotedText? '\x27' (plainEscapes dialect) rest).map fun parts =>
          (.singleQuoted (String.ofList parts.1), parts.2)
      else if dialect.opensQuotedName character then
        (quotedText? (if character == '[' then ']' else character) .none rest).map fun parts =>
          (.word (String.ofList parts.1) (some character), parts.2)
      else if character == '"' then
        (quotedText? '"' (plainEscapes dialect) rest).map fun parts =>
          (.doubleQuoted (String.ofList parts.1), parts.2)
      else if character.isDigit || character == '.' then
        scanNumber dialect previous (character :: rest)
      else if character == '@' || character == '#' then scanSign dialect (character :: rest)
      else if character == '&' then scanAmpersand dialect rest
      else if character == '?' && dialect != .postgresql then
        let digits := rest.takeWhile isNumeric
        some (.placeholder (String.ofList ('?' :: digits)), rest.drop digits.length)
      else if dialect.startsName character then scanWord dialect [character] rest
      else if character == '$' then scanDollar dialect rest
      else scanSymbol dialect (character :: rest)

/-- What stands at the start of a text. -/
inductive Lead where
  /-- Blanks or a comment, and the text behind. -/
  | gap (rest : List Char)
  /-- A comment whose content is read like any other text, and the text behind it. -/
  | hint (content rest : List Char)
  /-- A comment without an end. -/
  | openComment
  /-- A token starts here. -/
  | token

/-- Tell whether a text starts with a gap or a token.  In one dialect a comment that starts with
an exclamation mark and the digits of a version is a hint. -/
def lead (dialect : Dialect) : List Char → Lead
  | '/' :: '*' :: rest =>
      match comment? dialect.nestsComments ' ' 1 rest with
      | some (content, behind) =>
          if dialect == .mysql && content.head? == some '!' then
            .hint ((content.drop 1).dropLast.dropWhile Char.isDigit) behind
          else .gap behind
      | none => .openComment
  | '-' :: '-' :: rest =>
      if dialect != .mysql || (rest.head?.map isBlank).getD false then
        .gap (rest.dropWhile (· != '\n'))
      else .token
  | '#' :: rest => if dialect == .mysql then .gap (rest.dropWhile (· != '\n')) else .token
  | character :: rest =>
      if isBlank character && !dialect.startsName character then .gap rest else .token
  | [] => .token

/-- The lexemes of a text and of the texts `later`, in at most `limit` steps; `previous` is the
token that ends right before the text. -/
def lexemesFrom?
    (dialect : Dialect) :
    Nat → Option Token → List (List Char) → List Char → Option (List Lexeme)
  | 0, _, _, _ => some []
  | _ + 1, _, [], [] => some []
  | limit + 1, previous, text :: later, [] => lexemesFrom? dialect limit previous later text
  | limit + 1, previous, later, character :: rest =>
      match lead dialect (character :: rest) with
      | .gap behind => lexemesFrom? dialect limit none later behind
      | .hint content behind => lexemesFrom? dialect limit previous (behind :: later) content
      | .openComment => none
      | .token =>
          match scanToken dialect previous character rest with
          | none => none
          | some (token, behind) =>
              (lexemesFrom? dialect limit (some token) later behind).map fun others =>
                { token := token, keyword := token.keyword, spaced := previous.isNone } :: others

end Lexer

/-- The lexemes of a text. -/
def lexemes? (dialect : Dialect) (text : List Char) : Option (List Lexeme) :=
  lexemesFrom? dialect (2 * text.length + 1) none [] text

end Sql
end TableReach
