import TableReach.Sql.Token

/-!
# Operators and marks

The operators of each dialect.  In one dialect operator characters extend an
operator to one that the user has defined, and some operators are nothing unless
they are extended.
-/

namespace TableReach
namespace Sql
namespace Lexer

/-- A token and the text behind it. -/
abbrev Scan := Option (Token × List Char)

namespace Scan

/-- A symbol. -/
def ofSymbol (text : String) (rest : List Char) : Scan :=
  some (.symbol text, rest)

/-- A literal that ends where `rest` starts. -/
def ofLiteral (kind : LiteralKind) (rest : Option (List Char)) : Scan :=
  rest.map fun behind => (.literal kind "", behind)

/-- A string with escapes: its text, and the text behind it. -/
def ofText (kind : LiteralKind) (parts : Option (List Char × List Char)) : Scan :=
  parts.map fun found => (.literal kind (String.ofList found.1), found.2)

end Scan

/-- What may follow an operator or mark. -/
inductive Ending where
  /-- It ends here. -/
  | closed
  /-- Operator characters extend it. -/
  | extensible
  /-- Operator characters have to extend it. -/
  | unfinished
deriving DecidableEq

/-- Operators and marks that nothing extends. -/
def closedSymbols (dialect : Dialect) : List String :=
  ["(", ")", ",", "+", "*", "/", "=", "=>", "==", "!", "!=", "!!", ":", "::", ":=", ";", "\\", "[",
    "]", "^", "^@", "\x7b", "\x7d", "@", "@@", "@>", "@?"] ++
    (match dialect with
    | .generic => ["//", "|>"]
    | .postgresql => ["?", "?|", "?||", "?&", "?-", "?-|", "?#", "@-@", "&<|"]
    | _ => [])

/-- Operators that operator characters extend. -/
def extensibleSymbols (dialect : Dialect) : List String :=
  ["-", "->", "->>", "%", "|", "|/", "||", "||/", "<", "<=", "<=>", "<>", "<<", "<@", ">", ">=",
    ">>", "&", "&&", "~", "~*", "~~", "~~*", "!~", "!~*", "!~~", "!~~*", "#", "#-", "#>", "#>>"] ++
    (match dialect with
    | .postgresql => ["|&>", "|>>", "<|", "<<|", "<->", "<^", ">^", "&<", "~=", "##"]
    | _ => [])

/-- Starts of operators. -/
def unfinishedSymbols (dialect : Dialect) : List String :=
  match dialect with
  | .postgresql => ["|&", "|>", "<-", "@-"]
  | _ => []

/-- The operators and marks of a dialect. -/
def symbols (dialect : Dialect) : List (String × Ending) :=
  (closedSymbols dialect).map (·, .closed) ++
    (extensibleSymbols dialect).map (·, .extensible) ++
    (unfinishedSymbols dialect).map (·, .unfinished)

/-- The longest operator or mark that a text starts with. -/
def longestSymbol? (dialect : Dialect) (text : List Char) : Option (String × Ending) :=
  let found := (symbols dialect).filter fun entry => entry.1.toList.isPrefixOf text
  found.foldl
    (fun best entry =>
      match best with
      | some other => if other.1.length < entry.1.length then some entry else best
      | none => some entry)
    none

/-- An operator or mark; any other character is a symbol of its own. -/
def scanSymbol (dialect : Dialect) (text : List Char) : Scan :=
  match longestSymbol? dialect text with
  | some (symbol, ending) =>
      let rest := text.drop symbol.length
      let more := rest.takeWhile dialect.extendsOperator
      if ending == .closed then Scan.ofSymbol symbol rest
      else if !more.isEmpty then
        some (.operator (symbol ++ String.ofList more), rest.drop more.length)
      else if ending == .extensible then Scan.ofSymbol symbol rest
      else none
  | none =>
      match text with
      | character :: rest => Scan.ofSymbol (String.ofList [character]) rest
      | [] => none

/-- An operator that starts with an ampersand.  In one dialect the character behind `&>` belongs
to it. -/
def scanAmpersand (dialect : Dialect) (rest : List Char) : Scan :=
  match dialect, rest with
  | .postgresql, '>' :: behind => Scan.ofSymbol "&>" (behind.drop 1)
  | _, _ => scanSymbol dialect ('&' :: rest)

/-- A word that starts with the characters `start`. -/
def scanWord
    (dialect : Dialect)
    (start rest : List Char) : Scan :=
  let word := start ++ rest.takeWhile dialect.continuesName
  let behind := rest.dropWhile dialect.continuesName
  some (.word (String.ofList word) none, behind)

/-- A sign that may start a name, or an operator. -/
def scanSign (dialect : Dialect) (text : List Char) : Scan :=
  match text with
  | '@' :: '@' :: next :: rest =>
      if dialect.startsName '@' && next != ' ' then scanWord dialect ['@', '@', next] rest
      else Scan.ofSymbol "@@" (next :: rest)
  | '@' :: next :: rest =>
      if dialect.startsName '@' && !" >?@\"\x27\x60".toList.contains next then
        scanWord dialect ['@', next] rest
      else scanSymbol dialect text
  | '#' :: next :: rest =>
      if dialect.startsName '#' && !" ->".toList.contains next then
        scanWord dialect ['#', next] rest
      else scanSymbol dialect text
  | _ => scanSymbol dialect text

end Lexer
end Sql
end TableReach
