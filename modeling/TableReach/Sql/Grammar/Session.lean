import TableReach.Sql.Grammar.Setting

/-!
# Sessions

Statements about the session that runs them: transactions, variables, cursors, prepared
statements, and what is shown of the database.
-/

namespace TableReach
namespace Sql
namespace Grammar

/-- A mode of a transaction, if one comes next. -/
def transactionMode : Reader Bool := do
  if ← acceptWords ["ISOLATION", "LEVEL"] then
    if ← acceptWords ["READ", "UNCOMMITTED"] then return true
    if ← acceptWords ["READ", "COMMITTED"] then return true
    if ← acceptWords ["REPEATABLE", "READ"] then return true
    let _ ← expectAnyWord ["SERIALIZABLE", "SNAPSHOT"]
    return true
  if ← acceptWords ["READ", "ONLY"] then return true
  acceptWords ["READ", "WRITE"]

/-- At most `limit` modes of a transaction; a comma between them may be left out, and behind one
another mode is `needed`. -/
def transactionModesFrom : Nat → Bool → Reader Unit
  | 0, _ => return ()
  | limit + 1, needed => do
      if ← transactionMode then transactionModesFrom limit (← acceptSymbol ",")
      else require !needed

/-- The modes of a transaction. -/
def transactionModes : Reader Unit := do
  transactionModesFrom ((← remaining) + 1) false

/-- Whether another transaction follows the one that ends. -/
def transactionEnd : Reader Unit := do
  let _ ← acceptAnyWord ["TRANSACTION", "WORK"]
  if ← acceptWord "AND" then
    let _ ← acceptWord "NO"
    expectWord "CHAIN"

/-- The start of a transaction, behind its keyword. -/
def transactionStart : Reader Unit := do
  if ← dialectIn [.generic, .sqlite] then
    let _ ← acceptAnyWord ["DEFERRED", "IMMEDIATE", "EXCLUSIVE", "TRY", "CATCH"]
  let _ ← acceptAnyWord ["TRANSACTION", "WORK"]
  transactionModes

/-- A return to an earlier state, behind its keyword. -/
def rollback : Reader Unit := do
  transactionEnd
  if ← acceptWord "TO" then
    let _ ← acceptWord "SAVEPOINT"
    let _ ← ident

/-- The mark between a variable and its value. -/
def assignmentMark : Reader Bool := do
  if ← acceptSymbol "=" then return true else acceptWord "TO"

/-- The values of a variable. -/
def variableValues (levels : Levels) : Reader Unit := do
  let _ ← commaSeparated do
    if ← comesQuery then
      let _ ← levels.query
    else
      let _ ← levels.expression

/-- Words for where a variable is set. -/
def scopeWords : List String := ["SESSION", "LOCAL", "GLOBAL"]

/-- The role of a session. -/
def sessionRole : Reader Unit := do
  expectWord "ROLE"
  if !(← acceptWord "NONE") then let _ ← ident

/-- A time zone, behind its keywords. -/
def sessionTimeZone (levels : Levels) : Reader Unit := do
  if ← assignmentMark then variableValues levels
  else let _ ← levels.expression

/-- The character set of a session, behind its keyword. -/
def sessionCharacters : Reader Unit := do
  if !(← acceptWord "DEFAULT") then
    let _ ← ident
    literalStringAfter "COLLATE"

/-- A property of the session that has words of its own; tells whether one came.  `isScoped` says
whether a scope stands before it. -/
def sessionProperty (levels : Levels) (isScoped : Bool) : Reader Bool := do
  if (← attempt sessionRole).isSome then return true
  let zone ← acceptWords ["TIME", "ZONE"]
  let isZone ← if zone then pure true else acceptWord "TIMEZONE"
  if isZone then
    sessionTimeZone levels
    return true
  if ← dialectIn [.generic, .mysql, .postgresql] then
    if ← acceptWord "NAMES" then
      sessionCharacters
      return true
  if ← acceptWord "CHARACTERISTICS" then
    expectWords ["AS", "TRANSACTION"]
    transactionModes
    return true
  if ← acceptWord "TRANSACTION" then
    if ← acceptWord "SNAPSHOT" then let _ ← value else transactionModes
    return true
  if ← acceptWord "AUTHORIZATION" then
    require isScoped
    if !(← acceptWord "DEFAULT") then let _ ← ident
    return true
  return false

/-- A variable with its value. -/
def variableAssignment (levels : Levels) : Reader Unit := do
  let _ ← acceptAnyWord scopeWords
  let _ ← objectName
  require (← assignmentMark)
  let _ ← levels.expression

/-- A variable or several of them, with their values. -/
def variableGroup (levels : Levels) : Reader Unit := do
  let many ← if ← dialectIn [.generic] then comesSymbol "(" else pure false
  if many then
    let _ ← identList
    require (← assignmentMark)
    bracketed (variableValues levels)
  else
    let _ ← objectName
    require (← assignmentMark)
    variableValues levels

/-- A setting of the session, behind the keyword. -/
def sessionSetting (levels : Levels) : Reader Unit := do
  let isPrefixed ← acceptWord "HIVEVAR"
  let start ← get
  let isScoped ← if isPrefixed then pure false else acceptSomeWord scopeWords
  if isPrefixed then expectSymbol ":"
  if ← sessionProperty levels isScoped then return ()
  if ← dialectIn [.generic, .mysql] then
    if isScoped then set start
    if (← attempt (commaSeparated (variableAssignment levels))).isSome then return ()
  variableGroup levels

/-- A condition on what is shown. -/
def shownFilter (levels : Levels) : Reader Unit := do
  if ← acceptSomeWord ["LIKE", "ILIKE"] then
    let _ ← literalString
  else if ← acceptWord "WHERE" then
    let _ ← levels.expression
  else
    let _ ← attempt literalString

/-- What contains the objects that are shown. -/
def shownContainer : Reader Unit := do
  if ← acceptSomeWord ["FROM", "IN"] then
    match ← acceptAnyWord ["ACCOUNT", "DATABASE", "SCHEMA", "TABLE", "VIEW"] with
    | some kind =>
        let isBare :=
          (kind == "DATABASE" || kind == "SCHEMA") &&
            ((← keywordAt 0) == "LIMIT" || ((← keywordAt 0) == "STARTS" && (← keywordAt 1) == "WITH"))
        if !isBare then let _ ← attempt objectName
    | none =>
        let _ ← objectName
        if ← acceptSomeWord ["FROM", "IN"] then let _ ← ident

/-- Which objects are shown. -/
def shownOptions (levels : Levels) : Reader Unit := do
  shownContainer
  shownFilter levels
  if ← acceptWords ["STARTS", "WITH"] then let _ ← value
  if ← acceptWord "LIMIT" then let _ ← limit levels
  if ← acceptWord "FROM" then let _ ← value

/-- Something shown that has words of its own; tells whether one came. -/
def shownObjects (levels : Levels) : Reader Bool := do
  if ← acceptWords ["MATERIALIZED", "VIEWS"] then
    shownOptions levels
    return true
  match ← acceptAnyWord ["COLUMNS", "FIELDS", "TABLES", "VIEWS", "FUNCTIONS"] with
  | some "FUNCTIONS" => shownFilter levels; return true
  | some _ => shownOptions levels; return true
  | none => return false

/-- Something else shown that has words of its own; tells whether one came. -/
def shownProperties (levels : Levels) : Reader Bool := do
  if ← acceptWord "CREATE" then
    let _ ← expectAnyWord ["TABLE", "TRIGGER", "FUNCTION", "PROCEDURE", "EVENT", "VIEW"]
    let _ ← objectName
    return true
  if ← acceptWord "COLLATION" then
    shownFilter levels
    return true
  if ← acceptSomeWord ["VARIABLES", "STATUS"] then
    if ← dialectIn [.mysql, .generic] then
      shownFilter levels
      return true
  if ← acceptSomeWord ["DATABASES", "SCHEMAS"] then
    let _ ← acceptWord "HISTORY"
    shownOptions levels
    return true
  if ← acceptAnyWords [["CHARACTER", "SET"], ["CHARSET"]] then
    shownFilter levels
    return true
  return false

/-- What is shown of the database, behind the keyword; a variable in all other cases. -/
def showing (levels : Levels) : Reader Unit := do
  let _ ← acceptWord "TERSE"
  let extended ← acceptWord "EXTENDED"
  let full ← acceptWord "FULL"
  let _ ← acceptWord "SESSION"
  let _ ← acceptWord "GLOBAL"
  let _ ← acceptWord "EXTERNAL"
  if ← shownObjects levels then return ()
  require !(extended || full)
  if !(← shownProperties levels) then skipToEnd

/-- A new cursor, behind the keyword. -/
def newCursor (levels : Levels) : Reader Unit := do
  let _ ← ident
  let _ ← acceptWord "BINARY"
  let _ ← acceptAnyWord ["INSENSITIVE", "ASENSITIVE"]
  if !(← acceptWord "SCROLL") then
    let _ ← acceptWords ["NO", "SCROLL"]
  expectWord "CURSOR"
  if ← acceptSomeWord ["WITH", "WITHOUT"] then expectWord "HOLD"
  expectWord "FOR"
  let _ ← levels.query

/-- Which rows are fetched. -/
def fetchDirection : Reader Unit := do
  match ← acceptAnyWord
      ["NEXT", "PRIOR", "FIRST", "LAST", "ABSOLUTE", "RELATIVE", "FORWARD", "BACKWARD", "ALL"] with
  | some "ABSOLUTE" | some "RELATIVE" | none => numberValue
  | some "FORWARD" | some "BACKWARD" => if !(← acceptWord "ALL") then numberValue
  | some _ => return ()

/-- Rows fetched from a cursor, behind the keyword. -/
def fetching : Reader Unit := do
  fetchDirection
  let _ ← expectAnyWord ["FROM", "IN"]
  let _ ← ident
  objectNameAfter "INTO"

/-- The parameters of a prepared statement. -/
def executionParameters (levels : Levels) : Reader Unit := do
  if ← comesSymbol "(" then
    let _ ← bracketedItems levels.expression
  else
    let isEmpty :=
      (← remaining) == 0 || (← comesSymbol ";") ||
        ["USING", "OUTPUT", "DEFAULT"].contains (← nextKeyword)
    if !isEmpty then let _ ← levels.expressions

/-- A prepared statement that is run, behind the keyword. -/
def execution (levels : Levels) : Reader Unit := do
  let _ ← objectName
  executionParameters levels
  if ← acceptWord "INTO" then let _ ← commaSeparated ident
  if ← acceptWord "USING" then let _ ← commaSeparated (named levels.expression)
  let _ ← acceptWord "OUTPUT"
  let _ ← acceptWord "DEFAULT"

/-- A statement that is prepared, behind the keyword. -/
def preparation (levels : Levels) : Reader Unit := do
  let _ ← ident
  if ← comesSymbol "(" then let _ ← bracketedList (dataType levels)
  expectWord "AS"
  let _ ← levels.statement

/-- A message for those who listen, behind the keyword. -/
def notification : Reader Unit := do
  let _ ← ident
  if ← acceptSymbol "," then let _ ← literalString

/-- A parameter of the database, behind the keyword. -/
def pragma : Reader Unit := do
  let assigned : Reader Unit := do
    require ((← valueKind) != .other)
  let _ ← objectName
  if ← comesSymbol "(" then bracketed assigned
  else if ← acceptSymbol "=" then assigned

end Grammar
end Sql
end TableReach
