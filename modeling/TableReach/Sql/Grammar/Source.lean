import TableReach.Sql.Grammar.Expression
import TableReach.Sql.Grammar.RowPattern

/-!
# Sources of rows

What can stand behind `FROM`: tables, queries in brackets, joined tables in
brackets, and expressions that compute rows, each with a second name, and the
joins that follow.
-/

namespace TableReach
namespace Sql
namespace Grammar

/-- The columns that a second name may list, with their types. -/
def labelColumns (levels : Levels) : Reader Unit := do
  if ← acceptSymbol "(" then
    let _ ← commaSeparated do
      let _ ← ident
      attempt (dataType levels)
    expectSymbol ")"

/-- The second name of a table. -/
def tableLabel (levels : Levels) : Reader (Option Ident) := do
  let reserved :=
    if ← dialectIn [.mysql] then reservedForTables ++ reservedForHints else reservedForTables
  let label ← secondName reserved
  if label.isSome then labelColumns levels
  return label

/-- Rows of values, with an optional keyword before each; they may be empty where that is
`allowed`. -/
def valueRows (levels : Levels) (allowed : Bool) : Reader (List Expr) := do
  let rows ← commaSeparated do
    let _ ← acceptWord "ROW"
    expectSymbol "("
    if allowed then
      if ← acceptSymbol ")" then return []
    let row ← levels.expressions
    expectSymbol ")"
    return row
  return rows.flatten

/-- One index hint. -/
def indexHint : Reader (Option Unit) := do
  if ← acceptSomeWord ["USE", "IGNORE", "FORCE"] then
    let _ ← expectAnyWord ["INDEX", "KEY"]
    if ← acceptWord "FOR" then
      if ← acceptWord "JOIN" then pure ()
      else if ← acceptWords ["ORDER", "BY"] then pure ()
      else expectWords ["GROUP", "BY"]
    expectSymbol "("
    if !(← comesSymbol ")") then
      let _ ← commaSeparated ident
    expectSymbol ")"
    return some ()
  else return none

/-- How many rows a sample has. -/
def sampleCount (levels : Levels) : Reader Expr := do
  match ← attempt levels.expression with
  | some size => return size
  | none =>
      require (← next).token.isWord
      return .literal

/-- The size of a sample. -/
def sampleSize (levels : Levels) (bracketed : Bool) : Reader (List Expr) := do
  let bucket ← if bracketed then acceptWord "BUCKET" else pure false
  if bucket then
    numberValue
    expectWords ["OUT", "OF"]
    numberValue
    afterWord "ON" (do return [← levels.expression])
  else
    let found ← sampleCount levels
    let _ ← acceptAnyWord ["ROWS", "PERCENT"]
    return [found]

/-- A sample of rows, behind its keyword. -/
def sampleClauses (levels : Levels) : Reader (List Expr) := do
  let _ ← acceptAnyWord ["BERNOULLI", "ROW", "SYSTEM", "BLOCK"]
  let isBracketed ← acceptSymbol "("
  let size ← sampleSize levels isBracketed
  if isBracketed then expectSymbol ")"
  if ← acceptSomeWord ["REPEATABLE", "SEED"] then bracketed numberValue
  let start ← afterWord "OFFSET" (do return [← levels.expression])
  return size ++ start

/-- A sample of rows, if one comes next. -/
def sample (levels : Levels) : Reader (List Expr) := do
  if ← acceptSomeWord ["TABLESAMPLE", "SAMPLE"] then sampleClauses levels else return []

/-- The settings of a query or a table in one dialect; none if they do not come next. -/
def settings? (levels : Levels) : Reader (Option (List Expr)) := do
  if ← dialectIn [.generic] then
    when? (← acceptWord "SETTINGS") do
      commaSeparated do
        let _ ← ident
        expectSymbol "="
        levels.expression
  else return none

/-- The arguments of a table behind its opening bracket, at most `limit` of them; settings end
them. -/
def tableArgumentsFrom (levels : Levels) : Nat → Reader (List Expr)
  | 0 => unexpected
  | limit + 1 => do
      match ← settings? levels with
      | some found =>
          expectSymbol ")"
          return found
      | none =>
          let found ← argument levels
          if ← acceptSymbol "," then return found :: (← tableArgumentsFrom levels limit)
          else
            expectSymbol ")"
            return [found]

/-- The arguments of a table behind its opening bracket. -/
def tableArguments (levels : Levels) : Reader (List Expr) := do
  if ← acceptSymbol ")" then return []
  else tableArgumentsFrom levels ((← remaining) + 1)

/-- An expression that may be given a name behind `AS`. -/
def named (reader : Reader Expr) : Reader Expr := do
  let found ← reader
  if ← acceptWord "AS" then let _ ← ident
  return found

/-- The values that become columns. -/
def turnedValues (levels : Levels) : Reader (List Expr) := do
  if ← acceptWord "ANY" then afterWords ["ORDER", "BY"] (orderKeys levels)
  else if ← comesQuery then return [.subquery (← levels.query)]
  else commaSeparated (named levels.expression)

/-- A call that may be given a name behind `AS`. -/
def namedCall (levels : Levels) : Reader Expr :=
  named do
    require (← next).token.isWord
    call levels

/-- Rows turned into columns, behind the keyword. -/
def rowsToColumns (levels : Levels) : Reader (List Expr) :=
  bracketed do
    let aggregates ← commaSeparated (namedCall levels)
    expectWord "FOR"
    let key := do levels.expressionAbove (← power .between)
    let keys ← if ← comesSymbol "(" then bracketedList key else do pure [← key]
    expectWord "IN"
    let values ← bracketed (turnedValues levels)
    let absent ← afterWords ["DEFAULT", "ON", "NULL"] do
      return [← bracketed levels.expression]
    return aggregates ++ keys ++ values ++ absent

/-- Columns turned into rows, behind the keyword. -/
def columnsToRows (levels : Levels) : Reader (List Expr) := do
  if ← acceptSomeWord ["INCLUDE", "EXCLUDE"] then expectWord "NULLS"
  bracketed do
    let found ← levels.expression
    expectWord "FOR"
    let _ ← ident
    expectWord "IN"
    return found :: (← bracketedList (named levels.expression))

/-- The expressions of a source turned between rows and columns and its second name, if the
keyword comes next. -/
def turn (levels : Levels) : Reader (Option (List Expr × Option Ident)) := do
  match ← acceptAnyWord ["PIVOT", "UNPIVOT"] with
  | none => return none
  | some keyword =>
      let parts ← if keyword == "PIVOT" then rowsToColumns levels else columnsToRows levels
      return some (parts, ← tableLabel levels)

/-- Turn a source as often as the keywords come. -/
def withTurns (levels : Levels) (source : Source) : Reader Source := do
  let turns ← many (turn levels)
  return turns.foldl (fun turned (parts, label) => .turned turned parts label) source

/-- Which rows a search for a pattern gives. -/
def matchedRows : Reader Unit := do
  if ← acceptWords ["ONE", "ROW", "PER", "MATCH"] then return ()
  if ← acceptWords ["ALL", "ROWS", "PER", "MATCH"] then
    if ← acceptWords ["SHOW", "EMPTY", "MATCHES"] then return ()
    if ← acceptWords ["OMIT", "EMPTY", "MATCHES"] then return ()
    let _ ← acceptWords ["WITH", "UNMATCHED", "ROWS"]

/-- Where a search for a pattern goes on. -/
def afterMatch : Reader Unit := do
  if ← acceptWords ["AFTER", "MATCH", "SKIP"] then
    if ← acceptWords ["PAST", "LAST", "ROW"] then return ()
    if ← acceptWords ["TO", "NEXT", "ROW"] then return ()
    expectWord "TO"
    let _ ← expectAnyWord ["FIRST", "LAST"]
    let _ ← ident

/-- A search for a pattern of rows, behind the keyword. -/
def patternSearch (levels : Levels) : Reader (List Expr) :=
  bracketed do
    let partitions ← afterWords ["PARTITION", "BY"] levels.expressions
    let order ← afterWords ["ORDER", "BY"] (orderKeys levels)
    let measures ← afterWord "MEASURES" do
      commaSeparated do
        let measure ← levels.expression
        let _ ← acceptWord "AS"
        let _ ← ident
        return measure
    matchedRows
    afterMatch
    expectWord "PATTERN"
    bracketed rowPattern
    expectWord "DEFINE"
    let symbols ← commaSeparated do
      let _ ← ident
      expectWord "AS"
      levels.expression
    return partitions ++ order ++ measures ++ symbols

/-- Search a source for a pattern of rows, in the dialect that can. -/
def withPattern (levels : Levels) (source : Source) : Reader Source := do
  if ← dialectIn [.generic] then
    if ← acceptWord "MATCH_RECOGNIZE" then
      let parts ← patternSearch levels
      return .turned source parts (← tableLabel levels)
  return source

/-- A query in brackets behind the opening one, with its second name. -/
def derivedSource (levels : Levels) : Reader Source := do
  let query ← levels.query
  expectSymbol ")"
  return .derived query (← tableLabel levels)

/-- The second name of a source. -/
def labelOf : Source → Option Ident
  | .table _ label _ => label
  | .derived _ label => label
  | .computed _ label => label
  | .nested _ => none
  | .turned _ _ label => label

/-- A source with a second name in place of none. -/
def withLabel (label : Option Ident) : Source → Source
  | .table name inner found => .table name (inner <|> label) found
  | .derived query inner => .derived query (inner <|> label)
  | .computed found inner => .computed found (inner <|> label)
  | .nested item => .nested item
  | .turned source parts inner => .turned source parts (inner <|> label)

/-- Sources that are joined, or a nested one. -/
def isJoined : TableItem → Bool
  | .mk (.nested _) _ => true
  | .mk _ joins => !joins.isEmpty

/-- Joined tables in brackets behind the opening one.  A lone table in brackets is allowed in one
dialect, with a second name inside or behind the brackets. -/
def nestedSource (levels : Levels) : Reader Source := do
  let found ← levels.item
  if isJoined found then
    expectSymbol ")"
    let _ ← tableLabel levels
    return .nested found
  else
    require (← dialectIn [.generic])
    expectSymbol ")"
    let outer ← tableLabel levels
    match found with
    | .mk source _ =>
        require !(outer.isSome && (labelOf source).isSome)
        return withLabel outer source

/-- What is done about a missing or wrong value of a column, if anything is said. -/
def columnFallback : Reader (Option Unit) := do
  match ← acceptAnyWord ["NULL", "ERROR", "DEFAULT"] with
  | none => return none
  | some keyword =>
      if keyword == "DEFAULT" then let _ ← value
      expectWord "ON"
      let _ ← expectAnyWord ["EMPTY", "ERROR"]
      return some ()

/-- A column of a table made of a document, in which others are nested at most `depth` deep. -/
def documentColumn (levels : Levels) : Nat → Reader Unit
  | 0 => unexpected
  | depth + 1 => do
      if ← acceptWord "NESTED" then
        let _ ← acceptWord "PATH"
        let _ ← value
        expectWord "COLUMNS"
        let _ ← bracketedList (documentColumn levels depth)
      else
        let _ ← ident
        if ← acceptWord "FOR" then expectWord "ORDINALITY"
        else
          let _ ← dataType levels
          let _ ← acceptWord "EXISTS"
          expectWord "PATH"
          let _ ← value
          let _ ← many columnFallback

/-- The columns of a table made of a document. -/
def documentColumns (levels : Levels) : Reader Unit := do
  let _ ← bracketedList (documentColumn levels ((← remaining) + 1))

/-- A table made of a document, behind the word. -/
def documentSource (levels : Levels) : Reader Source := do
  let found ← bracketed do
    let found ← levels.expression
    expectSymbol ","
    let _ ← value
    expectWord "COLUMNS"
    documentColumns levels
    return found
  return .computed [found] (← tableLabel levels)

/-- A column of a table made of an opened document. -/
def openedColumn (levels : Levels) : Reader Unit := do
  let _ ← ident
  let _ ← dataType levels
  if ← comesSingleQuoted then skip
  if ← acceptWord "AS" then expectWord "JSON"

/-- A table made of an opened document, behind the word. -/
def openedSource (levels : Levels) : Reader Source := do
  let found ← bracketed do
    let found ← levels.expression
    if ← acceptSymbol "," then let _ ← value
    return found
  if ← acceptWord "WITH" then let _ ← bracketedList (openedColumn levels)
  return .computed [found] (← tableLabel levels)

/-- A column of a table made of marked-up text. -/
def markupColumn (levels : Levels) : Reader (List Expr) := do
  let _ ← ident
  if ← acceptWord "FOR" then
    expectWord "ORDINALITY"
    return []
  let _ ← dataType levels
  let path ← afterWord "PATH" (do return [← levels.expression])
  let absent ← afterWord "DEFAULT" (do return [← levels.expression])
  if !(← acceptWords ["NOT", "NULL"]) then let _ ← acceptWord "NULL"
  return path ++ absent

/-- A table made of marked-up text, behind the word. -/
def markupSource (levels : Levels) : Reader Source := do
  let found ← bracketed do
    let spaces ← afterWord "XMLNAMESPACES" do
      let found ← bracketedList do
        let space ← levels.expression
        expectWord "AS"
        let _ ← ident
        return space
      expectSymbol ","
      return found
    let rows ← levels.expression
    let passed ← afterWord "PASSING" do
      commaSeparated do
        if ← acceptWord "BY" then let _ ← acceptWord "VALUE"
        named levels.expression
    expectWord "COLUMNS"
    let columns ← commaSeparated (markupColumn levels)
    return spaces ++ rows :: passed ++ columns.flatten
  return .computed found (← tableLabel levels)

/-- The word comes next, with an opening bracket behind it. -/
def comesCallOf (word : String) : Reader Bool := do
  return (← comesWord word) && (← comesSymbolAt 1 "(")

/-- The elements of lists as rows, behind the word. -/
def elementSource (levels : Levels) : Reader Source := do
  let found ← bracketedList levels.expression
  let _ ← acceptWords ["WITH", "ORDINALITY"]
  let label ← tableLabel levels
  if ← acceptWord "WITH" then
    if ← acceptWord "OFFSET" then let _ ← columnLabel
  return .computed found label

/-- A source that is computed, if one comes next. -/
def computedSource (levels : Levels) : Reader (Option Source) := do
  if ← acceptWord "TABLE" then
    let found ← bracketed levels.expression
    return some (.computed [found] (← tableLabel levels))
  if ← comesCallOf "JSON_TABLE" then
    skip
    return some (← documentSource levels)
  if ← comesCallOf "OPENJSON" then
    skip
    return some (← openedSource levels)
  if ← comesCallOf "XMLTABLE" then
    skip
    return some (← markupSource levels)
  if ← dialectIn [.generic] then
    if ← comesCallOf "VALUES" then
      skip
      let rows ← valueRows levels false
      return some (.derived (.mk [] (.values rows) [] []) (← tableLabel levels))
  if ← dialectIn [.generic, .postgresql] then
    if ← acceptWord "UNNEST" then return some (← elementSource levels)
  return none

/-- A table with its arguments, second name and hints. -/
def namedSource (levels : Levels) : Reader Source := do
  let name ← objectName
  if ← dialectIn [.generic, .mysql] then
    if ← acceptWord "PARTITION" then let _ ← identList
  let found ← if ← acceptSymbol "(" then tableArguments levels else pure []
  let _ ← acceptWords ["WITH", "ORDINALITY"]
  let label ← tableLabel levels
  if ← dialectIn [.mysql] then
    let _ ← attempt (many indexHint)
  let hints ←
    if ← comesCallOf "WITH" then
      skip
      bracketedList levels.expression
    else pure []
  return .table name label (found ++ hints ++ (← sample levels))

/-- A source. -/
def source (levels : Levels) : Reader Source := do
  if ← acceptWord "LATERAL" then
    if ← acceptSymbol "(" then derivedSource levels
    else
      let _ ← objectName
      let found ← bracketedItems (argument levels)
      return .computed found (← tableLabel levels)
  else if ← acceptSymbol "(" then
    match ← attempt (derivedSource levels) with
    | some derived => withTurns levels derived
    | none => nestedSource levels
  else
    match ← computedSource levels with
    | some computed => return computed
    | none => withPattern levels (← withTurns levels (← namedSource levels))

/-- The condition of a join. -/
def joinCondition (levels : Levels) : Reader (List Expr) := do
  if ← acceptWord "ON" then return [← levels.expression]
  if ← acceptWord "USING" then let _ ← objectNameList
  return []

/-- The words of a join that keeps the rows of one side, behind the first word. -/
def sideJoinWords : Reader Unit := do
  if (← expectAnyWord ["OUTER", "SEMI", "ANTI", "JOIN"]) != "JOIN" then expectWord "JOIN"

/-- The words of a join before its source; none if no join comes next. -/
def joinWords (natural : Bool) : Reader Bool := do
  match ← nextKeyword with
  | "INNER" =>
      expectWords ["INNER", "JOIN"]
      return true
  | "JOIN" => skip; return true
  | "LEFT" | "RIGHT" =>
      skip
      sideJoinWords
      return true
  | "ANTI" | "SEMI" =>
      skip
      expectWord "JOIN"
      return true
  | "FULL" =>
      skip
      let _ ← acceptWord "OUTER"
      expectWord "JOIN"
      return true
  | "STRAIGHT_JOIN" => skip; return true
  | _ =>
      require !natural
      return false

/-- A join, if one comes next. -/
def join (levels : Levels) : Reader (Option Join) := do
  let _ ← acceptWord "GLOBAL"
  if ← acceptWord "CROSS" then
    let plain ← acceptWord "JOIN"
    if !plain then expectWord "APPLY"
    let joined ← source levels
    let condition ←
      if plain then
        if ← dialectIn [.mysql] then joinCondition levels else pure []
      else pure []
    return some (.mk joined condition)
  else if ← acceptWord "OUTER" then
    expectWord "APPLY"
    return some (.mk (← source levels) [])
  else if ← acceptWord "ASOF" then
    expectWord "JOIN"
    let joined ← source levels
    expectWord "MATCH_CONDITION"
    let nearest ← bracketed levels.expression
    return some (.mk joined (nearest :: (← joinCondition levels)))
  else
    let natural ← acceptWord "NATURAL"
    if ← joinWords natural then
      let joined ← source levels
      return some (.mk joined (← if natural then pure [] else joinCondition levels))
    else return none

/-- A source with its joins. -/
def item (levels : Levels) : Reader TableItem := do
  let first ← source levels
  return .mk first (← many (join levels))

/-- Sources with commas between them. -/
def items (levels : Levels) : Reader (List TableItem) := commaSeparated (item levels)

/-- The sources of a statement, which may have been given in an earlier place. -/
def laterItems (levels : Levels) (early : Option (List TableItem)) : Reader (List TableItem) :=
  match early with
  | some found => pure found
  | none => afterWord "FROM" (items levels)

end Grammar
end Sql
end TableReach
