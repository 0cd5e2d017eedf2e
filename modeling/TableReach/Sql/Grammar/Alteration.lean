import TableReach.Sql.Grammar.Creation

/-!
# Altered objects

Statements that change the definition of a table, or of another object.
-/

namespace TableReach
namespace Sql
namespace Grammar

/-- Where a column is put, in the dialects that can say it. -/
def columnPosition : Reader Unit := do
  if ← dialectIn [.mysql, .generic] then
    if !(← acceptWord "FIRST") then identAfter "AFTER"

/-- A selection stored with a table, behind the keyword. -/
def newProjection (levels : Levels) : Reader Unit := do
  let _ ← ifNotExists
  let _ ← ident
  bracketed do
    expectWord "SELECT"
    let _ ← columns levels
    let _ ← grouping levels
    let _ ← order levels

/-- Something added to a table, behind the keyword. -/
def addition (levels : Levels) : Reader Unit := do
  if ← tableConstraint levels then
    let _ ← acceptWords ["NOT", "VALID"]
    return ()
  if ← dialectIn [.generic] then
    if ← acceptWord "PROJECTION" then return ← newProjection levels
  let _ ← ifNotExists
  let partitions ← many do
    if ← acceptWord "PARTITION" then return some (← bracketedExpressions levels) else return none
  if partitions.isEmpty then
    let _ ← acceptWord "COLUMN"
    if ← dialectIn [.postgresql, .generic] then let _ ← ifNotExists
    newColumn levels
    columnPosition

/-- A new name for a table or a part of it, behind the keyword. -/
def newName : Reader Unit := do
  let constraint ← if ← dialectIn [.postgresql] then acceptWord "CONSTRAINT" else pure false
  if !constraint then
    if ← acceptSomeWord ["TO", "AS"] then
      let _ ← objectName
      return ()
    let _ ← acceptWord "COLUMN"
  let _ ← ident
  expectWord "TO"
  let _ ← ident

/-- A rule or trigger by name, behind the keyword. -/
def ruleOrTrigger : Reader Unit := do
  let _ ← expectAnyWord ["RULE", "TRIGGER"]
  let _ ← ident

/-- Something switched off, behind the keyword. -/
def disabling : Reader Unit := do
  if !(← acceptWords ["ROW", "LEVEL", "SECURITY"]) then ruleOrTrigger

/-- Something switched on, behind the keyword. -/
def enabling : Reader Unit := do
  if ← acceptWords ["ROW", "LEVEL", "SECURITY"] then return ()
  let _ ← acceptAnyWord ["ALWAYS", "REPLICA"]
  ruleOrTrigger

/-- A selection stored with a table by name, and the part of the table it is taken from. -/
def storedProjection : Reader Unit := do
  ifExists
  let _ ← ident
  if ← acceptWords ["IN", "PARTITION"] then let _ ← ident

/-- Something removed from a table, behind the keyword. -/
def droppedPart (levels : Levels) : Reader Unit := do
  if ← acceptWords ["IF", "EXISTS", "PARTITION"] then return ← bracketedExpressions levels
  if ← acceptWords ["PRIMARY", "KEY"] then return ← dropBehavior
  if ← acceptWords ["CLUSTERING", "KEY"] then return ()
  if ← acceptWords ["FOREIGN", "KEY"] then
    let _ ← ident
    return ← dropBehavior
  match ← acceptAnyWord ["PARTITION", "CONSTRAINT", "INDEX"] with
  | some "PARTITION" => bracketedExpressions levels
  | some "CONSTRAINT" =>
      ifExists
      let _ ← ident
      dropBehavior
  | some _ => let _ ← ident
  | none =>
      if ← acceptWord "PROJECTION" then
        if ← dialectIn [.generic] then
          ifExists
          let _ ← ident
          return ()
      let _ ← acceptWord "COLUMN"
      ifExists
      let _ ← ident
      dropBehavior

/-- A new type for a column. -/
def columnType (levels : Levels) : Reader Unit := do
  let _ ← dataType levels
  if ← dialectIn [.postgresql] then expressionAfter levels "USING"

/-- A change of a column, behind the keyword. -/
def columnChange (levels : Levels) : Reader Unit := do
  let _ ← acceptWord "COLUMN"
  let _ ← ident
  if ← acceptWords ["SET", "NOT", "NULL"] then return ()
  if ← acceptWords ["DROP", "NOT", "NULL"] then return ()
  if ← acceptWords ["SET", "DEFAULT"] then
    let _ ← levels.expression
    return ()
  if ← acceptWords ["DROP", "DEFAULT"] then return ()
  if ← acceptWords ["SET", "DATA", "TYPE"] then return ← columnType levels
  if ← acceptWord "TYPE" then return ← columnType levels
  expectWords ["ADD", "GENERATED"]
  if !(← acceptWord "ALWAYS") then
    let _ ← acceptWords ["BY", "DEFAULT"]
  expectWords ["AS", "IDENTITY"]
  if ← comesSymbol "(" then bracketed sequenceOptions

/-- A new definition of a column, behind its name. -/
def columnRedefinition (levels : Levels) : Reader Unit := do
  let _ ← dataType levels
  plainRules levels
  columnPosition

/-- Parts of a table with new names, behind the keyword. -/
def renamedPartition (levels : Levels) : Reader Unit := do
  bracketedExpressions levels
  expectWords ["RENAME", "TO", "PARTITION"]
  bracketedExpressions levels

/-- A part of a table. -/
def tablePart (levels : Levels) : Reader Unit := do
  let _ ← expectAnyWord ["PART", "PARTITION"]
  let _ ← levels.expression

/-- A part of a table with a name for its copy. -/
def namedTablePart (levels : Levels) : Reader Unit := do
  tablePart levels
  if ← acceptWord "WITH" then
    expectWord "NAME"
    let _ ← ident

/-- How rows of a table are told apart when changes are sent on, behind the keywords. -/
def replicaIdentity : Reader Unit := do
  if ← acceptWords ["USING", "INDEX"] then let _ ← ident
  else let _ ← expectAnyWord ["NONE", "FULL", "DEFAULT"]

/-- An operation on a table that only some dialects know; tells whether one came. -/
def dialectOperation (levels : Levels) : Reader Bool := do
  if ← dialectIn [.postgresql, .generic] then
    if ← acceptWords ["OWNER", "TO"] then
      let _ ← ident
      return true
  if ← dialectIn [.generic] then
    match ← acceptAnyWord ["ATTACH", "DETACH", "FREEZE", "UNFREEZE"] with
    | some "ATTACH" | some "DETACH" => tablePart levels; return true
    | some _ => namedTablePart levels; return true
    | none => return false
  else return false

/-- An operation on a table that is given by two keywords; tells whether one came. -/
def pairedOperation (levels : Levels) : Reader Bool := do
  if ← acceptAnyWords [["CLEAR", "PROJECTION"], ["MATERIALIZE", "PROJECTION"]] then
    if ← dialectIn [.generic] then
      storedProjection
      return true
  if ← acceptWords ["CLUSTER", "BY"] then
    bracketedExpressions levels
    return true
  if ← acceptWords ["SUSPEND", "RECLUSTER"] then return true
  if ← acceptWords ["RESUME", "RECLUSTER"] then return true
  if ← acceptWords ["REPLICA", "IDENTITY"] then
    replicaIdentity
    return true
  if ← acceptWords ["VALIDATE", "CONSTRAINT"] then
    let _ ← ident
    return true
  return (← changeMode).isSome

/-- An operation on a table that is given by one keyword; tells whether one came. -/
def plainOperation (levels : Levels) : Reader Bool := do
  match ← acceptAnyWord
      ["ADD", "RENAME", "DISABLE", "ENABLE", "DROP", "PARTITION", "CHANGE", "MODIFY", "ALTER",
        "SWAP", "AUTO_INCREMENT"] with
  | none => return false
  | some keyword =>
      match keyword with
      | "ADD" => addition levels
      | "RENAME" => newName
      | "DISABLE" => disabling
      | "ENABLE" => enabling
      | "DROP" => droppedPart levels
      | "PARTITION" => renamedPartition levels
      | "CHANGE" =>
          let _ ← acceptWord "COLUMN"
          let _ ← ident
          let _ ← ident
          columnRedefinition levels
      | "MODIFY" =>
          let _ ← acceptWord "COLUMN"
          let _ ← ident
          columnRedefinition levels
      | "ALTER" => columnChange levels
      | "SWAP" =>
          expectWord "WITH"
          let _ ← objectName
      | _ =>
          let _ ← acceptSymbol "="
          numberValue
      return true

/-- An operation on a table. -/
def tableOperation (levels : Levels) : Reader Unit := do
  if ← plainOperation levels then return ()
  if ← pairedOperation levels then return ()
  if ← dialectOperation levels then return ()
  if ← settingsAfter levels ["SET", "TBLPROPERTIES"] then return ()
  require (← settingsAfter levels ["SET"])

/-- An altered table, behind the keyword. -/
def alteredTable (levels : Levels) : Reader Unit := do
  ifExists
  let _ ← acceptWord "ONLY"
  let _ ← objectName
  onCluster
  let _ ← commaSeparated (tableOperation levels)
  if ← acceptWord "LOCATION" then let _ ← ident
  else if ← acceptWords ["SET", "LOCATION"] then let _ ← ident

/-- An altered view, behind the keyword. -/
def alteredView (levels : Levels) : Reader Unit := do
  let _ ← objectName
  optionalColumns false
  let _ ← settingsAfter levels ["WITH"]
  expectWord "AS"
  let _ ← levels.query

/-- An altered type, behind the keyword. -/
def alteredType : Reader Unit := do
  let _ ← objectName
  if ← acceptWords ["RENAME", "TO"] then let _ ← ident
  else if ← acceptWords ["ADD", "VALUE"] then
    let _ ← ifNotExists
    let _ ← ident
    if ← acceptSomeWord ["BEFORE", "AFTER"] then let _ ← ident
  else
    expectWords ["RENAME", "VALUE"]
    let _ ← ident
    expectWord "TO"
    let _ ← ident

/-- A new value of a parameter of a role, behind the keyword. -/
def roleParameter (levels : Levels) : Reader Unit := do
  let _ ← objectName
  if ← acceptWords ["FROM", "CURRENT"] then return ()
  if !(← acceptSymbol "=") then expectWord "TO"
  if !(← acceptWord "DEFAULT") then let _ ← levels.expression

/-- An altered role, behind the keyword, in the dialect that has it. -/
def alteredRole (levels : Levels) : Reader Unit := do
  require (← dialectIn [.postgresql])
  let _ ← ident
  if ← acceptWords ["IN", "DATABASE"] then looseName
  match ← acceptAnyWord ["RENAME", "SET", "RESET"] with
  | some "RENAME" =>
      expectWord "TO"
      let _ ← ident
  | some "SET" => roleParameter levels
  | some _ => if !(← acceptWord "ALL") then let _ ← objectName
  | none =>
      let _ ← acceptWord "WITH"
      let options ← many do
        match ← attempt roleOption with
        | some found => return found
        | none => return none
      require !options.isEmpty

/-- An altered rule about which rows may be seen, behind the keyword. -/
def alteredPolicy (levels : Levels) : Reader Unit := do
  let _ ← ident
  expectWord "ON"
  let _ ← objectName
  if ← acceptWord "RENAME" then
    expectWord "TO"
    let _ ← ident
  else policyConditions levels

/-- An altered connector, behind the keyword. -/
def alteredConnector (levels : Levels) : Reader Unit := do
  let _ ← ident
  expectWord "SET"
  let _ ← settingsAfter levels ["DCPROPERTIES"]
  literalStringAfter "URL"
  if ← acceptWord "OWNER" then
    let _ ← expectAnyWord ["USER", "ROLE"]
    let _ ← ident

/-- An altered schema, behind the keyword. -/
def alteredSchema (levels : Levels) : Reader Unit := do
  ifExists
  let _ ← objectName
  if ← acceptWords ["SET", "DEFAULT", "COLLATE"] then
    let _ ← levels.expression
  else if ← acceptWords ["ADD", "REPLICA"] then
    let _ ← ident
    let _ ← settingsAfter levels ["OPTIONS"]
  else if ← acceptWords ["DROP", "REPLICA"] then
    let _ ← ident
  else if ← acceptWords ["RENAME", "TO"] then
    let _ ← objectName
  else if ← acceptWords ["OWNER", "TO"] then
    let _ ← ident
  else
    expectWord "SET"
    require (← comesWord "OPTIONS")
    let _ ← settingsAfter levels ["OPTIONS"]

/-- A second way for a user to prove who they are. -/
def secondFactor : Reader Unit := do
  let _ ← expectAnyWord ["PASSKEY", "TOTP", "DUO"]

/-- What is delegated for a user to an integration. -/
def delegation : Reader Unit := do
  if ← acceptWords ["ADD", "DELEGATED", "AUTHORIZATION", "OF", "ROLE"] then
    let _ ← ident
    expectWords ["TO", "SECURITY", "INTEGRATION"]
    let _ ← ident
  if ← acceptWords ["REMOVE", "DELEGATED"] then
    if ← acceptWords ["AUTHORIZATION", "OF", "ROLE"] then let _ ← ident
    else expectWord "AUTHORIZATIONS"
    expectWords ["FROM", "SECURITY", "INTEGRATION"]
    let _ ← ident

/-- The second ways for a user to prove who they are. -/
def secondFactors : Reader Unit := do
  let _ ← acceptWords ["ENROLL", "MFA"]
  if ← acceptWords ["SET", "DEFAULT_MFA_METHOD"] then secondFactor
  if ← acceptWords ["REMOVE", "MFA", "METHOD"] then secondFactor
  if ← acceptWords ["MODIFY", "MFA", "METHOD"] then
    secondFactor
    expectWords ["SET", "COMMENT"]
    let _ ← literalString
  if ← acceptWords ["ADD", "MFA", "METHOD", "OTP"] then
    if ← acceptWord "COUNT" then
      expectSymbol "="
      let _ ← value

/-- A policy of a user that is set or unset. -/
def userPolicy (verb : String) : Reader Bool := do
  acceptAnyWords [[verb, "AUTHENTICATION", "POLICY"], [verb, "PASSWORD", "POLICY"],
    [verb, "SESSION", "POLICY"]]

/-- An altered user, behind the keyword. -/
def alteredUser : Reader Unit := do
  ifExists
  let _ ← ident
  if ← acceptWords ["RENAME", "TO"] then let _ ← ident
  let _ ← acceptWords ["RESET", "PASSWORD"]
  let _ ← acceptWords ["ABORT", "ALL", "QUERIES"]
  delegation
  secondFactors
  if ← userPolicy "SET" then let _ ← ident
  let _ ← userPolicy "UNSET"
  if ← acceptWords ["SET", "TAG"] then keyedOptions []
  if ← acceptWords ["UNSET", "TAG"] then owners
  if ← acceptWord "SET" then keyedOptions []
  if ← acceptWord "UNSET" then owners

/-- A part of an altered operator. -/
def operatorOption : Reader Unit := do
  let keyword ← expectAnyWord ["RESTRICT", "JOIN", "COMMUTATOR", "NEGATOR", "HASHES", "MERGES"]
  match keyword with
  | "RESTRICT" | "JOIN" =>
      expectSymbol "="
      let _ ← objectName
  | "COMMUTATOR" | "NEGATOR" =>
      expectSymbol "="
      operatorName
  | _ => return ()

/-- An altered operator, behind the keyword. -/
def alteredOperator (levels : Levels) : Reader Unit := do
  operatorName
  operandTypes levels
  if ← acceptWords ["OWNER", "TO"] then let _ ← ident
  else if ← acceptWords ["SET", "SCHEMA"] then let _ ← objectName
  else
    expectWord "SET"
    let _ ← bracketedList operatorOption

/-- An altered object, behind the word that alters it. -/
def alteration (levels : Levels) : Reader Unit := do
  match ← expectAnyWord
      ["VIEW", "TYPE", "TABLE", "INDEX", "ROLE", "POLICY", "CONNECTOR", "ICEBERG", "SCHEMA",
        "USER", "OPERATOR"] with
  | "VIEW" => alteredView levels
  | "TYPE" => alteredType
  | "TABLE" => alteredTable levels
  | "ICEBERG" =>
      expectWord "TABLE"
      alteredTable levels
  | "INDEX" =>
      let _ ← objectName
      expectWords ["RENAME", "TO"]
      let _ ← objectName
  | "ROLE" => alteredRole levels
  | "POLICY" => alteredPolicy levels
  | "CONNECTOR" => alteredConnector levels
  | "SCHEMA" => alteredSchema levels
  | "USER" => alteredUser
  | _ => alteredOperator levels

end Grammar
end Sql
end TableReach
