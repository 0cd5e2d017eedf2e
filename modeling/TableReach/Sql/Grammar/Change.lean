import TableReach.Sql.Grammar.Step

/-!
# Changes of rows

Statements that insert, update, delete or merge rows, and queries, which may have such
a statement as their body.
-/

namespace TableReach
namespace Sql
namespace Grammar

/-- The columns that a statement gives back. -/
def returning (levels : Levels) : Reader (List Expr) :=
  afterWord "RETURNING" (givenColumns levels)

/-- What happens when a row is there already. -/
def conflictWords : Reader Unit := do
  if ← acceptWord "REPLACE" then return ()
  let _ ← acceptAnyWords
    [["OR", "REPLACE"], ["OR", "ROLLBACK"], ["OR", "ABORT"], ["OR", "FAIL"], ["OR", "IGNORE"]]

/-- What is done with a row that is there already. -/
def conflict (levels : Levels) : Reader (List Expr) :=
  afterWord "ON" do
    if ← acceptWord "CONFLICT" then
      if ← acceptWords ["ON", "CONSTRAINT"] then let _ ← objectName
      else if ← comesSymbol "(" then let _ ← identList
      expectWord "DO"
      if ← acceptWord "NOTHING" then return []
      expectWords ["UPDATE", "SET"]
      let found ← assignments levels
      let selected ← afterWord "WHERE" (do return [← levels.expression])
      return found ++ selected
    else
      expectWords ["DUPLICATE", "KEY", "UPDATE"]
      assignments levels

/-- The rows of an insertion: the columns, then assignments or a query. -/
def insertedRows (levels : Levels) : Reader (Option Query × List Expr) := do
  if ← acceptWords ["DEFAULT", "VALUES"] then return (none, [])
  let isQuery ←
    if ← comesSymbol "(" then pure ((← keywordAt 1) == "SELECT") else pure false
  let partition ←
    if isQuery then pure []
    else do
      optionalColumns (← dialectIn [.mysql])
      afterWord "PARTITION" (bracketedList levels.expression)
  let assigns ←
    if ← dialectIn [.mysql] then acceptWord "SET" else pure false
  if assigns then return (none, (← assignments levels) ++ partition)
  return (some (← levels.query), partition)

/-- The format of a file. -/
def fileFormat : Reader Unit := do
  let _ ← expectAnyWord
    ["AVRO", "JSONFILE", "ORC", "PARQUET", "RCFILE", "SEQUENCEFILE", "TEXTFILE"]

/-- An insertion into a table, from its name on. -/
def insertionInto (levels : Levels) : Reader Statement := do
  let target ← objectName
  if ← dialectIn [.postgresql] then
    if ← acceptWord "AS" then let _ ← ident
  let inserted ← insertedRows levels
  if ← dialectIn [.generic, .mysql] then
    if ← acceptWord "AS" then
      let _ ← objectName
      optionalColumns false
  let kept ← conflict levels
  return .insert target inserted.1 (inserted.2 ++ kept ++ (← returning levels))

/-- An insertion, behind its keyword. -/
def insertion (levels : Levels) : Reader Statement := do
  conflictWords
  if ← dialectIn [.generic, .mysql] then
    let _ ← acceptAnyWord ["LOW_PRIORITY", "DELAYED", "HIGH_PRIORITY"]
    let _ ← acceptWord "IGNORE"
  let _ ← acceptWord "OVERWRITE"
  let _ ← acceptWord "INTO"
  let _ ← acceptWord "LOCAL"
  if ← acceptWord "DIRECTORY" then
    let _ ← literalString
    if ← acceptWords ["STORED", "AS"] then fileFormat
    return .directory (← levels.query)
  let _ ← acceptWord "TABLE"
  insertionInto levels

/-- An update, behind its keyword. -/
def updating (levels : Levels) : Reader Statement := do
  conflictWords
  let target ← item levels
  let early ← when? (← acceptWord "FROM") (items levels)
  expectWord "SET"
  let assigned ← assignments levels
  let sources ← laterItems levels early
  let selected ← afterWord "WHERE" (do return [← levels.expression])
  let given ← returning levels
  let bound ← afterWord "LIMIT" (do return [← levels.expression])
  return .update target assigned sources (selected ++ given ++ bound)

/-- A deletion, behind its keyword. -/
def deletion (levels : Levels) : Reader Statement := do
  let names ←
    if ← acceptWord "FROM" then pure []
    else if ← dialectIn [.generic] then pure []
    else
      let found ← commaSeparated objectName
      expectWord "FROM"
      pure found
  let sources ← items levels
  let others ← afterWord "USING" (items levels)
  let selected ← afterWord "WHERE" (do return [← levels.expression])
  let given ← returning levels
  let keys ← afterWords ["ORDER", "BY"] (orderKeys levels)
  let bound ← afterWord "LIMIT" (limit levels)
  return .delete names sources others (selected ++ given ++ keys ++ bound)

/-- What a merge does in a case that looks at rows which are `absent` from one side. -/
def mergeAction (levels : Levels) (absent bySource byTarget : Bool) : Reader (List Expr) := do
  match ← expectAnyWord ["UPDATE", "INSERT", "DELETE"] with
  | "UPDATE" =>
      require (!absent || bySource)
      expectWord "SET"
      assignments levels
  | "DELETE" =>
      require (!absent || bySource)
      return []
  | _ =>
      require (absent && (byTarget || !bySource))
      optionalColumns (← dialectIn [.mysql])
      if ← dialectIn [.generic] then
        if ← acceptWord "ROW" then return []
      expectWord "VALUES"
      valueRows levels (← dialectIn [.mysql])

/-- One case of a merge. -/
def mergeCase (levels : Levels) : Reader (Option (List Expr)) := do
  if !(← acceptWord "WHEN") then return none
  let absent ← acceptWord "NOT"
  expectWord "MATCHED"
  let bySource ← if absent then acceptWords ["BY", "SOURCE"] else pure false
  let byTarget ← if absent && !bySource then acceptWords ["BY", "TARGET"] else pure false
  let guarded ← afterWord "AND" (do return [← levels.expression])
  expectWord "THEN"
  return some (guarded ++ (← mergeAction levels absent bySource byTarget))

/-- The columns that a merge gives back, which may be stored in a table. -/
def mergeOutput (levels : Levels) : Reader (List Expr) := do
  match ← acceptAnyWord ["OUTPUT", "RETURNING"] with
  | none => return []
  | some keyword =>
      let found ← columns levels
      if keyword == "OUTPUT" then
        if ← acceptWord "INTO" then storedInto
      return found

/-- A merge, behind its keyword. -/
def merging (levels : Levels) : Reader Statement := do
  let _ ← acceptWord "INTO"
  let target ← source levels
  expectWord "USING"
  let rows ← source levels
  expectWord "ON"
  let condition ← levels.expression
  let cases ← many (mergeCase levels)
  return .merge target rows (condition :: cases.flatten ++ (← mergeOutput levels))

/-- A query, with a statement that changes rows as its body where one comes. -/
def query (levels : Levels) : Reader Query := do
  let named ← definitions levels
  match ← acceptAnyWord ["INSERT", "UPDATE", "DELETE", "MERGE"] with
  | some "INSERT" => return .mk named (.change (← insertion levels)) [] []
  | some "UPDATE" => return .mk named (.change (← updating levels)) [] []
  | some "DELETE" => return .mk named (.change (← deletion levels)) [] []
  | some _ => return .mk named (.merge (← merging levels)) [] []
  | none => plainQuery levels named (steps levels)

end Grammar
end Sql
end TableReach
