import TableReach.Sql.Grammar.Setting

/-!
# Upkeep of a database

Statements that explain other statements, gather statistics, clean up, lock and flush
tables, and attach files.
-/

namespace TableReach
namespace Sql
namespace Grammar

/-- A running statement that is stopped, behind the keyword. -/
def killing : Reader Unit := do
  let kind ← acceptAnyWord ["CONNECTION", "QUERY", "MUTATION"]
  wholeNumber
  if kind == some "MUTATION" then require (← dialectIn [.generic])

/-- Tables that are flushed.  The lexeme that ends them is taken too. -/
def flushedTables : Reader Unit := do
  let _ ← many do
    match ← peek with
    | none => return none
    | some lexeme =>
        if !lexeme.token.isWord then
          skip
          return none
        else if isKeyword lexeme.keyword then
          skip
          match lexeme.keyword with
          | "WITH" => let _ ← acceptWords ["READ", "LOCK"]
          | "FOR" => let _ ← acceptWord "EXPORT"
          | _ => pure ()
          return some ()
        else
          let _ ← commaSeparated objectName
          return some ()

/-- Logs or caches that are flushed, behind the keyword. -/
def flushing : Reader Unit := do
  require (← dialectIn [.mysql, .generic])
  let _ ← acceptAnyWord ["NO_WRITE_TO_BINLOG", "LOCAL"]
  match ← expectAnyWord
      ["BINARY", "ENGINE", "ERROR", "GENERAL", "HOSTS", "PRIVILEGES", "OPTIMIZER_COSTS", "RELAY",
        "SLOW", "STATUS", "USER_RESOURCES", "LOGS", "TABLES"] with
  | "BINARY" | "ENGINE" | "ERROR" | "GENERAL" | "SLOW" => expectWord "LOGS"
  | "RELAY" =>
      expectWord "LOGS"
      if ← acceptWords ["FOR", "CHANNEL"] then let _ ← objectName
  | "TABLES" => flushedTables
  | _ => return ()

/-- An option of an explanation. -/
def explanationOption (levels : Levels) : Reader Unit := do
  let _ ← ident
  if !((← comesSymbol ",") || (← comesSymbol ")")) then let _ ← levels.expression

/-- The format of an explanation. -/
def explanationFormat : Reader Unit := do
  let _ ← acceptSymbol "="
  let _ ← expectAnyWord ["TEXT", "GRAPHVIZ", "JSON", "TRADITIONAL"]

/-- What is explained: a statement that explains nothing itself, or a table. -/
def explainedObject (levels : Levels) : Reader Unit := do
  let nested := ["EXPLAIN", "DESCRIBE", "DESC"].contains (← nextKeyword)
  match ← attempt levels.statement with
  | some _ => require !nested
  | none =>
      let _ ← acceptAnyWord ["EXTENDED", "FORMATTED"]
      let _ ← objectName

/-- An explanation, behind its keyword. -/
def explanation (levels : Levels) (keyword : String) : Reader Unit := do
  let options ←
    if keyword == "EXPLAIN" then
      if ← dialectIn [.postgresql, .generic] then comesSymbol "(" else pure false
    else pure false
  if options then
    let _ ← bracketedList (explanationOption levels)
  else if ← acceptWords ["QUERY", "PLAN"] then pure ()
  else if ← acceptWord "ESTIMATE" then pure ()
  else
    let _ ← acceptWord "ANALYZE"
    let _ ← acceptWord "VERBOSE"
    if ← acceptWord "FORMAT" then explanationFormat
  explainedObject levels

/-- A clause about the statistics of a table, if one comes next. -/
def statisticsClause (levels : Levels) : Reader (Option Unit) := do
  match ← acceptAnyWord ["PARTITION", "FOR", "CACHE", "NOSCAN", "COMPUTE"] with
  | none => return none
  | some keyword =>
      match keyword with
      | "PARTITION" => bracketedExpressions levels
      | "FOR" =>
          expectWord "COLUMNS"
          let _ ← attempt (commaSeparated ident)
      | "CACHE" => expectWord "METADATA"
      | "COMPUTE" => expectWord "STATISTICS"
      | _ => pure ()
      return some ()

/-- Statistics of a table, behind the keyword. -/
def analysis (levels : Levels) : Reader Unit := do
  let _ ← acceptWord "TABLE"
  let _ ← objectName
  let _ ← many (statisticsClause levels)

/-- A query that fills a cached table. -/
def cachedRows (levels : Levels) : Reader Unit := do
  if (← remaining) != 0 then
    let _ ← settingsAfter levels ["OPTIONS"]
    if (← remaining) != 0 then
      require (((← peek).map fun lexeme => lexeme.token.isWord).getD false)
      let _ ← acceptWord "AS"
      let _ ← levels.query

/-- A cached table, behind the keyword. -/
def caching (levels : Levels) : Reader Unit := do
  if !(← acceptWord "TABLE") then
    let _ ← objectName
    expectWord "TABLE"
  let _ ← objectName
  cachedRows levels

/-- A table that is cached no longer, behind the keyword. -/
def uncaching : Reader Unit := do
  expectWord "TABLE"
  ifExists
  let _ ← objectName

/-- Lost parts of a table that are found again, behind the keyword. -/
def repairing : Reader Unit := do
  let _ ← acceptWord "REPAIR"
  expectWord "TABLE"
  let _ ← objectName
  let _ ← attempt do
    let _ ← acceptAnyWord ["ADD", "DROP", "SYNC"]
    expectWord "PARTITIONS"

/-- A database file that is attached, behind the keyword. -/
def attaching (levels : Levels) : Reader Unit := do
  let _ ← acceptWord "DATABASE"
  let _ ← levels.expression
  expectWord "AS"
  let _ ← ident

/-- A database that is detached, behind the keyword. -/
def detaching : Reader Unit := do
  require (← dialectIn [.generic])
  let _ ← acceptWord "DATABASE"
  ifExists
  let _ ← ident

/-- Space that is cleaned up, behind the keyword. -/
def vacuuming : Reader Unit := do
  let _ ← acceptWord "FULL"
  let _ ← acceptWords ["SORT", "ONLY"]
  let _ ← acceptWords ["DELETE", "ONLY"]
  let _ ← acceptWord "REINDEX"
  let _ ← acceptWord "RECLUSTER"
  if (← attempt objectName).isSome then
    if ← acceptWord "TO" then
      let _ ← value
      expectWord "PERCENT"
    let _ ← acceptWord "BOOST"

/-- A table whose parts are merged, behind the keyword. -/
def optimizing (levels : Levels) : Reader Unit := do
  require (← dialectIn [.generic])
  expectWord "TABLE"
  let _ ← objectName
  onCluster
  if ← acceptWord "PARTITION" then
    if ← acceptWord "ID" then
      let _ ← ident
    else
      let _ ← levels.expression
  let _ ← acceptWord "FINAL"
  if ← acceptWord "DEDUPLICATE" then expressionAfter levels "BY"

/-- How a table is locked. -/
def tableLock : Reader Unit := do
  let _ ← ident
  let _ ← secondName ["READ", "WRITE", "LOW_PRIORITY"]
  if ← acceptWord "READ" then
    let _ ← acceptWord "LOCAL"
  else
    let _ ← acceptWord "LOW_PRIORITY"
    expectWord "WRITE"

/-- A comment on an object, behind the keyword. -/
def commenting : Reader Unit := do
  require (← dialectIn [.generic, .postgresql])
  ifExists
  expectWord "ON"
  let kind ← expectAnyWord
    ["COLUMN", "DATABASE", "DOMAIN", "EXTENSION", "FUNCTION", "INDEX", "MATERIALIZED",
      "PROCEDURE", "ROLE", "SCHEMA", "SEQUENCE", "TABLE", "TYPE", "USER", "VIEW"]
  if kind == "MATERIALIZED" then expectWord "VIEW"
  let _ ← objectName
  expectWord "IS"
  if !(← acceptWord "NULL") then let _ ← literalString

/-- Rows of a query that are exported, behind the first keyword. -/
def exporting (levels : Levels) : Reader Unit := do
  expectWord "DATA"
  if ← acceptWords ["WITH", "CONNECTION"] then let _ ← objectName
  expectWord "OPTIONS"
  let _ ← bracketedList (setting levels)
  expectWord "AS"
  let _ ← levels.query

end Grammar
end Sql
end TableReach
