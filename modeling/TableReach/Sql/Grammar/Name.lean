import TableReach.Sql.Grammar.Reader
import TableReach.Sql.Keyword

/-!
# Names, second names and values

A name is a word or a string.  A second name follows a column or a table, with or
without `AS`; without it, words that start the next clause are no names.
-/

namespace TableReach
namespace Sql
namespace Grammar

/-- The name that a token can stand for. -/
def identOf? : Token → Option Ident
  | .word text quote => some { text := text, quote := quote }
  | .singleQuoted text => some { text := text, quote := some '\x27' }
  | .doubleQuoted text => some { text := text, quote := some '"' }
  | _ => none

/-- A name. -/
def ident : Reader Ident := do
  match identOf? (← next).token with
  | some found => return found
  | none => unexpected

/-- A dotted name. -/
def objectName : Reader ObjectName := do
  let first ← ident
  let others ← many do
    if ← acceptSymbol "." then return some (← ident) else return none
  return first :: others

/-- Any lexeme behind a period, if one comes next. -/
def behindPeriod : Reader (Option Lexeme) := do
  if ← acceptSymbol "." then return some (← next) else return none

/-- An operator with the dotted names before it. -/
def operatorName : Reader Unit := do
  let _ ← next
  let _ ← many behindPeriod

/-- Names in round brackets. -/
def identList : Reader (List Ident) := bracketedList ident

/-- Dotted names in round brackets. -/
def objectNameList : Reader (List ObjectName) := bracketedList objectName

/-- Words that cannot name a column without `AS`. -/
def reservedForColumns : List String :=
  ["WITH", "EXPLAIN", "ANALYZE", "SELECT", "WHERE", "GROUP", "SORT", "HAVING", "ORDER", "TOP",
    "LATERAL", "VIEW", "LIMIT", "OFFSET", "FETCH", "UNION", "EXCEPT", "EXCLUDE", "INTERSECT",
    "MINUS", "CLUSTER", "DISTRIBUTE", "RETURNING", "FROM", "INTO", "END"]

/-- Words that cannot name a table without `AS`. -/
def reservedForTables : List String :=
  ["WITH", "EXPLAIN", "ANALYZE", "SELECT", "WHERE", "GROUP", "SORT", "HAVING", "ORDER", "PIVOT",
    "UNPIVOT", "TOP", "LATERAL", "VIEW", "LIMIT", "OFFSET", "FETCH", "UNION", "EXCEPT",
    "INTERSECT", "MINUS", "ON", "JOIN", "INNER", "CROSS", "FULL", "LEFT", "RIGHT", "NATURAL",
    "USING", "CLUSTER", "DISTRIBUTE", "GLOBAL", "ANTI", "SEMI", "RETURNING", "ASOF",
    "MATCH_CONDITION", "OUTER", "SET", "QUALIFY", "WINDOW", "END", "FOR", "PARTITION", "PREWHERE",
    "SETTINGS", "FORMAT", "START", "CONNECT", "MATCH_RECOGNIZE", "SAMPLE", "TABLESAMPLE", "FROM",
    "OPEN"]

/-- Words that start an index hint or a join in one dialect. -/
def reservedForHints : List String :=
  ["USE", "IGNORE", "FORCE", "STRAIGHT_JOIN"]

/-- A second name; `reserved` words need an `AS` before them. -/
def secondName (reserved : List String) : Reader (Option Ident) := do
  let explicit ← acceptWord "AS"
  match ← peek with
  | none => require !explicit; return none
  | some lexeme =>
      match lexeme.token with
      | .word text quote =>
          if explicit || !reserved.contains lexeme.keyword then
            skip
            return some { text := text, quote := quote }
          else return none
      | .singleQuoted text => skip; return some { text := text, quote := some '\x27' }
      | .doubleQuoted text => skip; return some { text := text, quote := some '"' }
      | _ => require !explicit; return none

/-- The second name of a column. -/
def columnLabel : Reader (Option Ident) := secondName reservedForColumns

/-- What the grammar has to know about a value. -/
inductive ValueKind where
  | number
  | text
  | parameter
  | other
deriving DecidableEq

/-- A string, if one comes next. -/
def furtherString : Reader (Option Unit) := do
  match (← peek).map Lexeme.token with
  | some (.singleQuoted _) | some (.doubleQuoted _) => skip; return some ()
  | _ => return none

/-- Strings that follow a string and belong to it. -/
def furtherStrings : Reader Unit := do
  if ← dialectIn [.mysql] then let _ ← many furtherString

/-- The kind of a literal, parameter or constant. -/
def valueKind : Reader ValueKind := do
  let lexeme ← next
  match lexeme.token with
  | .number _ _ => return .number
  | .literal _ _ => return .other
  | .placeholder _ => return .parameter
  | .singleQuoted _ | .doubleQuoted _ =>
      furtherStrings
      return .text
  | .word _ quote =>
      if quote == some '"' then return .text
      require (["TRUE", "FALSE", "NULL"].contains lexeme.keyword)
      return .other
  | .symbol mark =>
      require (mark == ":" || mark == "@")
      let parameter ← next
      require !parameter.spaced
      match parameter.token with
      | .word _ _ | .number _ false => return .parameter
      | _ => unexpected
  | .operator _ => unexpected

/-- A literal, parameter or constant. -/
def value : Reader Expr := do
  let _ ← valueKind
  return .literal

/-- A number or a parameter. -/
def numberValue : Reader Unit := do
  let kind ← valueKind
  require (kind == .number || kind == .parameter)

/-- A number or a parameter with an optional sign. -/
def signedValue : Reader Unit := do
  if ← acceptSymbol "+" then numberValue
  else
    let _ ← acceptSymbol "-"
    numberValue

/-- A string, or a word without a meaning of its own. -/
def literalString : Reader String := do
  let lexeme ← next
  match lexeme.token with
  | .word text quote =>
      require (quote.isSome || !isKeyword lexeme.keyword)
      return text
  | .singleQuoted text | .doubleQuoted text => return text
  | .literal kind text =>
      require (kind == .escaped || kind == .unicode)
      return text
  | _ => unexpected

/-- A string of one character. -/
def literalCharacter : Reader Unit := do
  require ((← literalString).utf8ByteSize == 1)

/-- A string in single quotes. -/
def singleQuoted : Reader Unit := do
  match (← next).token with
  | .singleQuoted _ => return ()
  | _ => unexpected

/-- A string in single quotes comes next. -/
def comesSingleQuoted : Reader Bool := do
  return match (← peek).map Lexeme.token with
    | some (.singleQuoted _) => true
    | _ => false

/-- A whole number below `bound`. -/
def wholeNumberBelow (bound : Nat) : Reader Unit := do
  match (← next).token with
  | .number text _ =>
      require (text.toList.all Char.isDigit && (text.toNat?.map (decide <| · < bound)).getD false)
  | _ => unexpected

/-- A whole number of 64 bits. -/
def wholeNumber : Reader Unit := wholeNumberBelow (Nat.pow 2 64)

/-- A whole number of 63 bits with an optional sign. -/
def signedNumber : Reader Unit := do
  if !(← acceptSymbol "-") then
    let _ ← acceptSymbol "+"
  wholeNumberBelow (Nat.pow 2 63)

/-- A number in round brackets, if a bracket opens here. -/
def optionalPrecision : Reader Unit := do
  if ← acceptSymbol "(" then
    wholeNumber
    expectSymbol ")"

/-- One or two numbers in round brackets, if a bracket opens here. -/
def optionalPrecisionAndScale : Reader Unit := do
  if ← acceptSymbol "(" then
    wholeNumber
    if ← acceptSymbol "," then wholeNumber
    expectSymbol ")"

/-- One or two numbers in round brackets, of which the second may have a sign, if a bracket opens
here. -/
def optionalPrecisionAndSignedScale : Reader Unit := do
  if ← acceptSymbol "(" then
    wholeNumber
    if ← acceptSymbol "," then signedNumber
    expectSymbol ")"

/-- Names in round brackets, if a bracket opens here. -/
def optionalColumns (emptyAllowed : Bool) : Reader Unit := do
  if ← acceptSymbol "(" then
    if emptyAllowed then
      if ← acceptSymbol ")" then return ()
    let _ ← commaSeparated ident
    expectSymbol ")"

end Grammar
end Sql
end TableReach
