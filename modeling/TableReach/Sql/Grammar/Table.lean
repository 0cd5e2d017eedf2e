import TableReach.Sql.Grammar.Column

/-!
# New tables and views

What creates a table: its columns, how its rows are stored, its settings, and a query
that fills it; and what creates a view or an index.
-/

namespace TableReach
namespace Sql
namespace Grammar

/-- The marks between the parts of a row in a file, behind the keywords. -/
def rowMark (words : List String) : Reader Bool := do
  if ← acceptWords words then
    let _ ← ident
    return true
  else return false

/-- How rows are written to a file, behind the first keyword. -/
def rowFormat : Reader Unit := do
  expectWord "FORMAT"
  match ← acceptAnyWord ["SERDE", "DELIMITED"] with
  | some "SERDE" => let _ ← literalString
  | _ =>
      let _ ← many do
        let marked ←
          match ← acceptAnyWord ["FIELDS", "COLLECTION", "MAP", "LINES", "NULL"] with
          | some "FIELDS" =>
              let found ← rowMark ["TERMINATED", "BY"]
              if found then let _ ← rowMark ["ESCAPED", "BY"]
              pure found
          | some "COLLECTION" => rowMark ["ITEMS", "TERMINATED", "BY"]
          | some "MAP" => rowMark ["KEYS", "TERMINATED", "BY"]
          | some "LINES" => rowMark ["TERMINATED", "BY"]
          | some _ => rowMark ["DEFINED", "AS"]
          | none => pure false
        return if marked then some () else none

/-- How the rows of a table are stored, behind the keywords. -/
def storageFormat (levels : Levels) : Reader Unit := do
  expectWord "AS"
  if ← acceptWord "INPUTFORMAT" then
    let _ ← levels.expression
    expectWord "OUTPUTFORMAT"
    let _ ← levels.expression
  else fileFormat

/-- How and where the rows of a table are stored. -/
def storage (levels : Levels) : Reader Unit := do
  let _ ← many do
    match ← nextKeyword with
    | "ROW" => skip; rowFormat; return some ()
    | "STORED" => skip; storageFormat levels; return some ()
    | "LOCATION" =>
        skip
        let _ ← literalString
        return some ()
    | "WITH" =>
        if ← settingsAfter levels ["WITH", "SERDEPROPERTIES"] then return some () else return none
    | _ => return none

/-- The columns that divide the rows of a table. -/
def partitionColumns (levels : Levels) : Reader Unit := do
  if ← acceptWords ["PARTITIONED", "BY"] then
    let _ ← bracketedList (newColumn levels)

/-- The buckets of a table in one dialect. -/
def buckets (levels : Levels) : Reader Unit := do
  if ← dialectIn [.generic] then
    if ← acceptWords ["CLUSTERED", "BY"] then
      let _ ← identList
      if ← acceptWords ["SORTED", "BY"] then let _ ← bracketedList (orderKey levels)
      expectWord "INTO"
      numberValue
      expectWord "BUCKETS"

/-- The names of options that have a value. -/
def optionNames : List (List String) :=
  [["DEFAULT", "CHARSET"], ["CHARSET"], ["DEFAULT", "CHARACTER", "SET"], ["CHARACTER", "SET"],
    ["DEFAULT", "COLLATE"], ["COLLATE"], ["DATA", "DIRECTORY"], ["INDEX", "DIRECTORY"],
    ["KEY_BLOCK_SIZE"], ["ROW_FORMAT"], ["PACK_KEYS"], ["STATS_AUTO_RECALC"],
    ["STATS_PERSISTENT"], ["STATS_SAMPLE_PAGES"], ["DELAY_KEY_WRITE"], ["COMPRESSION"],
    ["ENCRYPTION"], ["MAX_ROWS"], ["MIN_ROWS"], ["AUTOEXTEND_SIZE"], ["AVG_ROW_LENGTH"],
    ["CHECKSUM"], ["CONNECTION"], ["ENGINE_ATTRIBUTE"], ["PASSWORD"],
    ["SECONDARY_ENGINE_ATTRIBUTE"], ["INSERT_METHOD"], ["AUTO_INCREMENT"]]

/-- The engine of a table. -/
def engine : Reader Unit := do
  require (← next).token.isWord
  if ← comesSymbol "(" then let _ ← identList

/-- The space that a table is stored in. -/
def tableSpace : Reader Unit := do
  match (← next).token with
  | .word _ _ | .singleQuoted _ => pure ()
  | _ => unexpected
  if ← acceptWord "STORAGE" then
    let _ ← acceptSymbol "="
    match (← next).token with
    | .word text _ => require (["DISK", "MEMORY"].contains (String.ofList (Text.upper text.toList)))
    | _ => unexpected

/-- An option of a table without brackets, if one comes next. -/
def plainOption : Reader Bool := do
  if ← acceptWords ["START", "TRANSACTION"] then return true
  match ← acceptAnyWord ["COMMENT", "ENGINE", "TABLESPACE", "UNION"] with
  | some keyword =>
      let _ ← acceptSymbol "="
      match keyword with
      | "COMMENT" => singleQuoted
      | "ENGINE" => engine
      | "TABLESPACE" => tableSpace
      | _ => let _ ← bracketedItems ident
      return true
  | none =>
      if ← acceptAnyWords optionNames then
        let _ ← acceptSymbol "="
        match ← attempt value with
        | some _ => pure ()
        | none => let _ ← ident
        return true
      else return false

/-- Options of a table without brackets, with or without commas between them. -/
def plainOptions : Reader Unit := do
  let _ ← many do
    if ← plainOption then
      let _ ← acceptSymbol ","
      return some ()
    else return none

/-- The settings of a table. -/
def tableSettings (levels : Levels) : Reader Unit := do
  if ← acceptWord "INHERITS" then let _ ← objectNameList
  let set ← settingsAfter levels ["WITH"]
  let properties ← settingsAfter levels ["TBLPROPERTIES"]
  if ← dialectIn [.postgresql, .generic] then
    if ← acceptWords ["PARTITION", "BY"] then let _ ← levels.expression
  let options ←
    if ← dialectIn [.generic] then
      if ← acceptWords ["CLUSTER", "BY"] then let _ ← levels.expressions
      let comes ← comesWord "OPTIONS"
      let _ ← settingsAfter levels ["OPTIONS"]
      pure comes
    else pure false
  if !(set || properties || options) then plainOptions

/-- The order in which the rows of a table are stored. -/
def storedOrder (levels : Levels) : Reader Unit := do
  if ← dialectIn [.generic] then
    if ← acceptWords ["PRIMARY", "KEY"] then let _ ← levels.expression
  if ← acceptWords ["ORDER", "BY"] then
    if ← comesSymbol "(" then let _ ← bracketedItems levels.expression
    else let _ ← levels.expression

/-- What happens to the rows of a table at the end of a transaction. -/
def onCommit : Reader Unit := do
  if ← acceptWords ["ON", "COMMIT"] then
    if ← acceptWords ["DELETE", "ROWS"] then return ()
    if ← acceptWords ["PRESERVE", "ROWS"] then return ()
    expectWord "DROP"

/-- A new table, behind the keyword. -/
def newTable (levels : Levels) : Reader Unit := do
  let _ ← ifNotExists
  let _ ← objectName
  onCluster
  if ← acceptSomeWord ["LIKE", "ILIKE"] then let _ ← objectName
  if ← acceptWord "CLONE" then looseName
  columnDefinitions levels
  let _ ← acceptWords ["WITHOUT", "ROWID"]
  partitionColumns levels
  buckets levels
  storage levels
  tableSettings levels
  storedOrder levels
  onCommit
  let _ ← acceptWord "STRICT"
  if ← acceptWord "AS" then
    let _ ← levels.query
  else if ← dialectIn [.mysql] then
    if ← comesWord "SELECT" then let _ ← levels.query

/-- A new table whose rows are stored elsewhere, behind the first keyword. -/
def externalTable (levels : Levels) : Reader Unit := do
  expectWord "TABLE"
  let _ ← ifNotExists
  let _ ← objectName
  columnDefinitions levels
  partitionColumns levels
  storage levels
  let _ ← settingsAfter levels ["TBLPROPERTIES"]

/-- A new view, from the keywords before its name. -/
def newView (levels : Levels) : Reader Unit := do
  let _ ← acceptWord "SECURE"
  let _ ← acceptWord "MATERIALIZED"
  expectWord "VIEW"
  let early ← ifNotExists
  let _ ← objectName
  if !early then let _ ← ifNotExists
  if ← comesSymbol "(" then
    let _ ← bracketedItems do
      let _ ← ident
      plainRules levels
  let _ ← settingsAfter levels ["WITH"]
  if ← acceptWord "CLUSTER" then
    expectWord "BY"
    optionalColumns false
  if ← dialectIn [.generic] then
    let _ ← settingsAfter levels ["OPTIONS"]
    objectNameAfter "TO"
    if ← acceptWord "COMMENT" then
      expectSymbol "="
      commentText
  expectWord "AS"
  let _ ← levels.query
  if ← dialectIn [.generic] then
    let _ ← acceptWords ["WITH", "NO", "SCHEMA", "BINDING"]

/-- How a table is changed, and how it is locked meanwhile. -/
def changeMode : Reader (Option Unit) := do
  match ← acceptAnyWord ["ALGORITHM", "LOCK"] with
  | none => return none
  | some keyword =>
      let _ ← acceptSymbol "="
      let _ ← expectAnyWord <|
        if keyword == "LOCK" then ["DEFAULT", "EXCLUSIVE", "NONE", "SHARED"]
        else ["DEFAULT", "INSTANT", "INPLACE", "COPY"]
      return some ()

/-- A new index, behind the keyword. -/
def newIndex (levels : Levels) : Reader Unit := do
  let _ ← acceptWord "CONCURRENTLY"
  let needsName ← ifNotExists
  let unnamed ← if needsName then pure false else acceptWord "ON"
  if !unnamed then
    let _ ← objectName
    indexKind
    expectWord "ON"
  let _ ← objectName
  indexKind
  indexColumns levels
  if ← acceptWord "INCLUDE" then let _ ← identList
  nullsDistinct
  if ← dialectIn [.postgresql, .generic] then
    if ← acceptWord "WITH" then bracketedExpressions levels
  expressionAfter levels "WHERE"
  indexOptions
  let _ ← many changeMode

end Grammar
end Sql
end TableReach
