import TableReach.Sql.Grammar.Source

/-!
# Queries

A selection with its clauses, combinations of queries, named queries in front
and order, limits and locks behind.
-/

namespace TableReach
namespace Sql
namespace Grammar

/-- The expressions of a repeated clause in round brackets. -/
def columnsOrOne : Reader Unit := do
  if ← comesSymbol "(" then let _ ← identList
  else let _ ← ident

/-- A column with its new name. -/
def renamedColumn : Reader Unit := do
  let _ ← ident
  expectWord "AS"
  let _ ← ident

/-- What may follow a star in one dialect. -/
def starOptions (levels : Levels) : Reader (List Expr) := do
  if ← dialectIn [.generic] then
    if ← acceptWord "ILIKE" then singleQuoted
    else if ← acceptWord "EXCLUDE" then columnsOrOne
    if ← acceptWord "EXCEPT" then columnsOrOne
    let replaced ← afterWord "REPLACE" do
      bracketedList do
        let item ← levels.expression
        let _ ← acceptWord "AS"
        let _ ← ident
        return item
    if ← acceptWord "RENAME" then
      if ← comesSymbol "(" then let _ ← bracketedList renamedColumn
      else renamedColumn
    return replaced
  else return []

/-- The word `FROM` without quotes, in any case. -/
def isFromName : Expr → Bool
  | .name { text := text, quote := none } => Text.lowerAscii text == "from"
  | _ => false

/-- One column of a selection. -/
def column (levels : Levels) : Reader (List Expr) := do
  let (found, star) ← wildcardOrExpression levels
  if star then starOptions levels
  else
    require !(isFromName found)
    let _ ← columnLabel
    return [found]

/-- The list of columns ends behind a comma. -/
def endsColumns : Reader Bool := do
  match ← peek with
  | none => return true
  | some lexeme =>
      match lexeme.token with
      | .symbol mark => return [")", ";", "]", "\x7d"].contains mark
      | _ => return reservedForColumns.contains lexeme.keyword

/-- The columns of a selection; in one dialect a comma may end them. -/
def columns (levels : Levels) : Reader (List Expr) := do
  let first ← column levels
  let others ← many do
    if ← acceptSymbol "," then
      if ← dialectIn [.generic] then
        if ← endsColumns then return none
      return some (← column levels)
    else return none
  return first ++ others.flatten

/-- The quantifier of a selection. -/
def quantifier (levels : Levels) : Reader (List Expr) := do
  let all ← acceptWord "ALL"
  if ← acceptWord "DISTINCT" then
    require !all
    afterWord "ON" do
      expectSymbol "("
      if ← acceptSymbol ")" then return []
      let found ← levels.expressions
      expectSymbol ")"
      return found
  else return []

/-- How many rows are taken from the top, behind the keyword. -/
def top (levels : Levels) : Reader (List Expr) := do
  let found ←
    if ← comesSymbol "(" then do pure [← bracketed levels.expression]
    else do
      wholeNumber
      pure []
  let _ ← acceptWord "PERCENT"
  let _ ← acceptWords ["WITH", "TIES"]
  return found

/-- The table that a selection is stored in, behind the keyword. -/
def storedInto : Reader Unit := do
  let _ ← acceptAnyWord ["TEMP", "TEMPORARY"]
  let _ ← acceptWord "UNLOGGED"
  let _ ← acceptWord "TABLE"
  let _ ← objectName

/-- A view on the rows of an expression. -/
def lateralView (levels : Levels) : Reader (Option Expr) := do
  if ← acceptWords ["LATERAL", "VIEW"] then
    let _ ← acceptWord "OUTER"
    let found ← levels.expression
    let _ ← objectName
    let _ ← commaSeparated (secondName ["WHERE", "GROUP", "CLUSTER", "HAVING", "LATERAL"])
    return some found
  else return none

/-- Expressions in round brackets, possibly none; or one without brackets if that is `lifted`. -/
def tuple (levels : Levels) (lifted : Bool) : Reader (List Expr) := do
  if ← acceptSymbol "(" then
    if ← acceptSymbol ")" then return []
    let found ← levels.expressions
    expectSymbol ")"
    return found
  else
    require lifted
    return [← levels.expression]

/-- One key of a grouping. -/
def groupingKey (levels : Levels) : Reader (List Expr) := do
  if ← dialectIn [.generic, .postgresql] then
    if ← acceptWords ["GROUPING", "SETS"] then
      return (← bracketedList (tuple levels false)).flatten
    if ← acceptSomeWord ["CUBE", "ROLLUP"] then
      return (← bracketedList (tuple levels true)).flatten
    if ← comesSymbol "(" then
      if ← comesSymbolAt 1 ")" then
        expectSymbol "("
        expectSymbol ")"
        return []
  return [← levels.expression]

/-- The grouping of a selection. -/
def grouping (levels : Levels) : Reader (List Expr) :=
  afterWords ["GROUP", "BY"] do
    let keys ←
      if ← acceptWord "ALL" then pure []
      else do pure (← commaSeparated (groupingKey levels)).flatten
    if ← dialectIn [.generic, .mysql] then
      let _ ← many do
        if ← acceptWord "WITH" then
          return some (← expectAnyWord ["ROLLUP", "CUBE", "TOTALS"])
        else return none
    let sets ← afterWords ["GROUPING", "SETS"] do
      return (← bracketedList (tuple levels true)).flatten
    return keys ++ sets

/-- A window with a name. -/
def namedWindow (levels : Levels) : Reader (List Expr) := do
  let _ ← ident
  expectWord "AS"
  if ← acceptSymbol "(" then windowSpecification levels
  else
    require (← dialectIn [.generic])
    let _ ← ident
    return []

/-- Named windows and a condition on what is computed with them, in any order. -/
def windowsAndQualification (levels : Levels) : Reader (List Expr) := do
  let windows : Reader (List Expr) :=
    afterWord "WINDOW" (do return (← commaSeparated (namedWindow levels)).flatten)
  let qualification : Reader (List Expr) :=
    afterWord "QUALIFY" (do return [← levels.expression])
  if ← comesWord "WINDOW" then
    let named ← windows
    return named ++ (← qualification)
  else
    let qualified ← qualification
    let named ← if qualified.isEmpty then pure [] else windows
    return named ++ qualified

/-- The relations between the rows of a hierarchy and the condition on its roots, in the dialect
that has them. -/
def hierarchy (levels : Levels) : Reader (List Expr) := do
  let relations : Reader (List Expr) := do
    expectWords ["CONNECT", "BY"]
    inPlace .hierarchy levels.expressions
  let roots : Reader Expr := do
    expectWords ["START", "WITH"]
    levels.expression
  if ← dialectIn [.generic] then
    match ← nextKeyword with
    | "CONNECT" =>
        let related ← relations
        return (← roots) :: related
    | "START" =>
        let root ← roots
        return root :: (← relations)
    | _ => return []
  else return []

/-- The clauses of a selection behind its sources. -/
def conditions (levels : Levels) : Reader (List Expr) := do
  let views ← many (lateralView levels)
  let early ←
    if ← dialectIn [.generic] then afterWord "PREWHERE" (do return [← levels.expression])
    else pure []
  let selection ← afterWord "WHERE" (do return [← levels.expression])
  let groups ← grouping levels
  let clusters ← afterWords ["CLUSTER", "BY"] levels.expressions
  let shares ← afterWords ["DISTRIBUTE", "BY"] levels.expressions
  let sorts ← afterWords ["SORT", "BY"] (orderKeys levels)
  let having ← afterWord "HAVING" (do return [← levels.expression])
  let windows ← windowsAndQualification levels
  let related ← hierarchy levels
  return views ++ early ++ selection ++ groups ++ clusters ++ shares ++ sorts ++ having ++
    windows ++ related

/-- A selection; in one dialect the sources may come first. -/
def selection (levels : Levels) : Reader Body := do
  let leading ←
    if ← dialectIn [.generic] then
      when? (← acceptWord "FROM") (items levels)
    else pure none
  if leading.isSome && !(← comesWord "SELECT") then
    return .select [] (leading.getD []) []
  expectWord "SELECT"
  let distinct ← quantifier levels
  let limited ← afterWord "TOP" (top levels)
  let empty ←
    if ← dialectIn [.generic, .postgresql] then comesWord "FROM" else pure false
  let found ← if empty then pure [] else columns levels
  if ← acceptWord "INTO" then storedInto
  let sources ← laterItems levels leading
  return .select (distinct ++ limited ++ found) sources (← conditions levels)

/-- All rows of a table, behind the keyword.  Three lexemes are taken in any case. -/
def wholeTable : Reader Body := do
  let isNamed ← isWordAt 0
  let isDotted ← comesSymbolAt 1 "."
  let isNamedBehind ← isWordAt 2
  require (isNamed && (!isDotted || isNamedBehind))
  skip
  skip
  skip
  return .wholeTable

/-- All rows of a table, with the keyword. -/
def tableBody : Reader Body := do
  if ← acceptWord "TABLE" then wholeTable else unexpected

/-- The body of a query without combinations. -/
def simpleBody (levels : Levels) : Reader Body := do
  let early ← if ← dialectIn [.generic] then comesWord "FROM" else pure false
  if early || (← comesWord "SELECT") then selection levels
  else if ← acceptSymbol "(" then
    let query ← levels.query
    expectSymbol ")"
    return .nested query
  else if ← acceptSomeWord ["VALUES", "VALUE"] then
    return .values (← valueRows levels (← dialectIn [.mysql]))
  else tableBody

/-- The quantifier of a combination. -/
def combinationQuantifier : Reader Unit := do
  if ← acceptWords ["BY", "NAME"] then pure ()
  else if ← acceptSomeWord ["ALL", "DISTINCT"] then
    let _ ← acceptWords ["BY", "NAME"]

/-- The body behind one of the given operators, if one comes next. -/
def combination (operators : List String) (right : String → Reader Body) :
    Reader (Option Body) := do
  match ← acceptAnyWord operators with
  | none => return none
  | some operator =>
      combinationQuantifier
      return some (← right operator)

/-- Combine with the bodies that follow the given operators, from left to right. -/
def combinations
    (operators : List String)
    (right : String → Reader Body)
    (first : Body) : Reader Body := do
  let others ← many (combination operators right)
  return others.foldl Body.combined first

/-- Bodies combined by the operator that binds tighter. -/
def intersections (levels : Levels) : Reader Body := do
  combinations ["INTERSECT"] (fun _ => simpleBody levels) (← simpleBody levels)

/-- The body of a query. -/
def body (levels : Levels) : Reader Body := do
  combinations ["UNION", "EXCEPT", "MINUS", "INTERSECT"]
    (fun operator => if operator == "INTERSECT" then simpleBody levels else intersections levels)
    (← simpleBody levels)

/-- A query that is given a name. -/
def namedQuery (levels : Levels) : Reader NamedQuery := do
  let name ← ident
  if !(← comesWord "AS") then labelColumns levels
  expectWord "AS"
  if ← dialectIn [.postgresql] then
    if ← acceptWord "MATERIALIZED" then pure ()
    else let _ ← acceptWords ["NOT", "MATERIALIZED"]
  let query ← bracketed levels.query
  if ← acceptWord "FROM" then let _ ← ident
  return .mk name query

/-- The named queries in front of a query. -/
def definitions (levels : Levels) : Reader (List NamedQuery) :=
  afterWord "WITH" do
    let _ ← acceptWord "RECURSIVE"
    commaSeparated (namedQuery levels)

/-- How many rows are left out, behind the keyword. -/
def offset (levels : Levels) : Reader (List Expr) := do
  let found ← levels.expression
  let _ ← acceptAnyWord ["ROW", "ROWS"]
  return [found]

/-- How many rows are given, behind the keyword. -/
def limit (levels : Levels) : Reader (List Expr) := do
  if ← acceptWord "ALL" then return [] else return [← levels.expression]

/-- The limits of a query. -/
def limits (levels : Levels) : Reader (List Expr) := do
  let early ← when? (← acceptWord "OFFSET") (offset levels)
  match ← when? (← acceptWord "LIMIT") (limit levels) with
  | none => return early.getD []
  | some count =>
      let comma ←
        if early.isNone && !count.isEmpty then
          if ← dialectIn [.generic, .mysql, .sqlite] then acceptSymbol "," else pure false
        else pure false
      if comma then return count ++ [← levels.expression]
      let keys ←
        if ← dialectIn [.generic] then afterWord "BY" levels.expressions else pure []
      let late ← if early.isNone then afterWord "OFFSET" (offset levels) else pure []
      return count ++ early.getD [] ++ late ++ keys

/-- How many rows are fetched. -/
def fetch : Reader Unit := do
  if ← acceptWord "FETCH" then
    let _ ← acceptAnyWord ["FIRST", "NEXT"]
    if !(← acceptSomeWord ["ROW", "ROWS"]) then
      let _ ← value
      let _ ← acceptWord "PERCENT"
      let _ ← acceptAnyWord ["ROW", "ROWS"]
    if !(← acceptWord "ONLY") then
      let _ ← acceptWords ["WITH", "TIES"]

/-- A name in round brackets. -/
def nameInBrackets : Reader Unit := do
  let _ ← bracketed literalString

/-- An option of the form of marked-up text. -/
def markupOption : Reader Unit := do
  match ← acceptAnyWord ["ELEMENTS", "BINARY", "ROOT", "TYPE"] with
  | some "BINARY" => expectWord "BASE64"
  | some "ROOT" => nameInBrackets
  | _ => pure ()

/-- The form of the result as marked-up text, behind the keyword. -/
def markupForm : Reader Unit := do
  match ← expectAnyWord ["RAW", "AUTO", "EXPLICIT", "PATH"] with
  | "RAW" | "PATH" => if ← comesSymbol "(" then nameInBrackets
  | _ => pure ()
  let _ ← many do
    if ← acceptSymbol "," then return some (← markupOption) else return none

/-- The form of the result as a document, behind the keyword. -/
def documentForm : Reader Unit := do
  let _ ← expectAnyWord ["AUTO", "PATH"]
  let _ ← many do
    if ← acceptSymbol "," then
      if ← acceptWord "ROOT" then nameInBrackets
      else let _ ← acceptAnyWord ["INCLUDE_NULL_VALUES", "WITHOUT_ARRAY_WRAPPER"]
      return some ()
    else return none

/-- A lock on the rows of a query, behind the keyword. -/
def lock : Reader Unit := do
  let _ ← expectAnyWord ["UPDATE", "SHARE"]
  if ← acceptWord "OF" then let _ ← objectName
  if !(← acceptWord "NOWAIT") then
    let _ ← acceptWords ["SKIP", "LOCKED"]

/-- At most `limit` locks on the rows of a query, or forms of its result; a form ends them. -/
def locksAndForm : Nat → Reader Unit
  | 0 => return ()
  | limit + 1 => do
      if ← acceptWord "FOR" then
        match ← acceptAnyWord ["XML", "JSON", "BROWSE"] with
        | some "XML" => markupForm
        | some "JSON" => documentForm
        | some _ => pure ()
        | none =>
            lock
            locksAndForm limit

/-- Locks on the rows of a query and the form of its result. -/
def locksOrForm : Reader Unit := do
  locksAndForm (← remaining)

/-- The format of the result in one dialect. -/
def format : Reader Unit := do
  if ← dialectIn [.generic] then
    if ← acceptWord "FORMAT" then
      if !(← acceptWord "NULL") then let _ ← ident

/-- How missing rows are filled in, in one dialect. -/
def interpolation (levels : Levels) : Reader (List Expr) := do
  if ← dialectIn [.generic] then
    if ← acceptWord "INTERPOLATE" then
      if ← comesSymbol "(" then
        let found ← bracketedItems do
          let _ ← ident
          afterWord "AS" (do return [← levels.expression])
        return found.flatten
  return []

/-- The order of a query. -/
def order (levels : Levels) : Reader (List Expr) :=
  afterWords ["ORDER", "BY"] do
    let keys ← orderKeys levels
    return keys ++ (← interpolation levels)

/-- A query that starts with a selection or another body, behind its named queries; `steps` reads
the steps behind it. -/
def plainQuery
    (levels : Levels)
    (named : List NamedQuery)
    (steps : Reader (List Step)) : Reader Query := do
  let found ← body levels
  let keys ← order levels
  let bounds ← limits levels
  let set ← settings? levels
  fetch
  locksOrForm
  format
  return .mk named found (keys ++ bounds ++ set.getD []) (← steps)

end Grammar
end Sql
end TableReach
