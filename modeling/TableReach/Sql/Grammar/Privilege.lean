import TableReach.Sql.Grammar.Creation

/-!
# Privileges

Statements that grant, deny or revoke privileges: what may be done, on which objects,
and by whom.
-/

namespace TableReach
namespace Sql
namespace Grammar

/-- Privileges that are given by keywords alone. -/
def plainPrivileges : List (List String) :=
  [["IMPORTED", "PRIVILEGES"], ["ADD", "SEARCH", "OPTIMIZATION"], ["ATTACH", "LISTING"],
    ["ATTACH", "POLICY"], ["BIND", "SERVICE", "ENDPOINT"], ["EVOLVE", "SCHEMA"],
    ["IMPORT", "SHARE"], ["MANAGE", "VERSIONS"], ["MANAGE", "RELEASES"],
    ["OVERRIDE", "SHARE", "RESTRICTIONS"], ["PURCHASE", "DATA", "EXCHANGE", "LISTING"],
    ["RESOLVE", "ALL"], ["READ", "SESSION"], ["APPLYBUDGET"], ["AUDIT"], ["CONNECT"], ["DELETE"],
    ["FAILOVER"], ["OPERATE"], ["READ"], ["REPLICATE"], ["TEMPORARY"], ["TRIGGER"], ["TRUNCATE"],
    ["USAGE"], ["OWNERSHIP"], ["DROP"]]

/-- What a privilege to apply something applies. -/
def appliedObjects : List (List String) :=
  [["AGGREGATION", "POLICY"], ["AUTHENTICATION", "POLICY"], ["JOIN", "POLICY"],
    ["MASKING", "POLICY"], ["PACKAGES", "POLICY"], ["PASSWORD", "POLICY"],
    ["PROJECTION", "POLICY"], ["ROW", "ACCESS", "POLICY"], ["SESSION", "POLICY"], ["TAG"]]

/-- What a privilege to create something may name. -/
def createdObjects : List (List String) :=
  [["APPLICATION", "PACKAGE"], ["COMPUTE", "POOL"], ["DATA", "EXCHANGE", "LISTING"],
    ["EXTERNAL", "VOLUME"], ["FAILOVER", "GROUP"], ["NETWORK", "POLICY"],
    ["ORGANIZATION", "LISTING"], ["REPLICATION", "GROUP"], ["ACCOUNT"], ["APPLICATION"],
    ["DATABASE"], ["INTEGRATION"], ["ROLE"], ["SCHEMA"], ["SHARE"], ["USER"], ["WAREHOUSE"]]

/-- What a privilege to execute something may name. -/
def executedObjects : List (List String) :=
  [["DATA", "METRIC", "FUNCTION"], ["MANAGED", "ALERT"], ["MANAGED", "TASK"], ["ALERT"], ["TASK"]]

/-- What a privilege to manage something manages. -/
def managedObjects : List (List String) :=
  [["ACCOUNT", "SUPPORT", "CASES"], ["EVENT", "SHARING"], ["GRANTS"],
    ["LISTING", "AUTO", "FULFILLMENT"], ["ORGANIZATION", "SUPPORT", "CASES"],
    ["USER", "SUPPORT", "CASES"], ["WAREHOUSES"]]

/-- What a privilege to modify something may name. -/
def modifiedObjects : List (List String) :=
  [["LOG", "LEVEL"], ["TRACE", "LEVEL"], ["SESSION", "LOG", "LEVEL"],
    ["SESSION", "TRACE", "LEVEL"]]

/-- What a privilege to monitor something may name. -/
def monitoredObjects : List (List String) := [["EXECUTION"], ["SECURITY"], ["USAGE"]]

/-- One privilege. -/
def privilege : Reader Unit := do
  if ← acceptWords ["DATABASE", "ROLE"] then
    let _ ← objectName
    return ()
  if ← acceptAnyWords plainPrivileges then return ()
  match ← expectAnyWord
      ["APPLY", "CREATE", "EXEC", "EXECUTE", "INSERT", "MANAGE", "MODIFY", "MONITOR", "REFERENCES",
        "ROLE", "SELECT", "UPDATE"] with
  | "APPLY" => require (← acceptAnyWords appliedObjects)
  | "CREATE" => let _ ← acceptAnyWords createdObjects
  | "EXEC" | "EXECUTE" => let _ ← acceptAnyWords executedObjects
  | "MANAGE" => require (← acceptAnyWords managedObjects)
  | "MODIFY" => let _ ← acceptAnyWords modifiedObjects
  | "MONITOR" => let _ ← acceptAnyWords monitoredObjects
  | "ROLE" => let _ ← objectName
  | _ => optionalColumns false

/-- Groups of objects that are given by what contains them, or objects of two-word kinds. -/
def objectGroups : List (List String) :=
  [["ALL", "TABLES", "IN", "SCHEMA"], ["ALL", "EXTERNAL", "TABLES", "IN", "SCHEMA"],
    ["ALL", "VIEWS", "IN", "SCHEMA"], ["ALL", "MATERIALIZED", "VIEWS", "IN", "SCHEMA"],
    ["ALL", "FUNCTIONS", "IN", "SCHEMA"], ["FUTURE", "SCHEMAS", "IN", "DATABASE"],
    ["FUTURE", "TABLES", "IN", "SCHEMA"], ["FUTURE", "EXTERNAL", "TABLES", "IN", "SCHEMA"],
    ["FUTURE", "VIEWS", "IN", "SCHEMA"], ["FUTURE", "MATERIALIZED", "VIEWS", "IN", "SCHEMA"],
    ["ALL", "SEQUENCES", "IN", "SCHEMA"], ["FUTURE", "SEQUENCES", "IN", "SCHEMA"],
    ["RESOURCE", "MONITOR"], ["COMPUTE", "POOL"], ["FAILOVER", "GROUP"], ["REPLICATION", "GROUP"],
    ["EXTERNAL", "VOLUME"]]

/-- A dotted name in which a star may stand for a part. -/
def objectPattern : Reader Unit := do
  let part : Reader Unit := do
    if !(← acceptSymbol "*") then let _ ← ident
  part
  let _ ← many do
    if ← acceptSymbol "." then return some (← part) else return none

/-- The objects of privileges. -/
def privilegedObjects (levels : Levels) : Reader Unit := do
  if ← acceptAnyWords objectGroups then
    let _ ← commaSeparated objectName
  else
    let kind ← acceptAnyWord
      ["SEQUENCE", "DATABASE", "SCHEMA", "TABLE", "VIEW", "WAREHOUSE", "INTEGRATION", "USER",
        "CONNECTION", "PROCEDURE", "FUNCTION"]
    let _ ← commaSeparated objectPattern
    if kind == some "PROCEDURE" || kind == some "FUNCTION" then
      if ← comesSymbol "(" then let _ ← bracketedItems (dataType levels)

/-- Privileges, and whether objects are given for them. -/
def privileges (levels : Levels) : Reader Bool := do
  if ← acceptWord "ALL" then let _ ← acceptWord "PRIVILEGES"
  else let _ ← commaSeparated privilege
  if ← acceptWord "ON" then
    privilegedObjects levels
    return true
  else return false

/-- The kinds of users that privileges are given to. -/
def granteeKinds : List (List String) :=
  [["ROLE"], ["USER"], ["SHARE"], ["GROUP"], ["DATABASE", "ROLE"], ["APPLICATION", "ROLE"],
    ["APPLICATION"]]

/-- At most `limit` users with commas between them.  The word for all users needs no name, and
`everyone` says that it came before without another kind behind it. -/
def granteesFrom : Nat → Bool → Reader Unit
  | 0, _ => return ()
  | limit + 1, everyone => do
      let isPublic ←
        if ← acceptWord "PUBLIC" then pure true
        else if ← acceptAnyWords granteeKinds then pure false
        else pure everyone
      if !isPublic then
        granteeName
        if ← acceptSymbol ":" then let _ ← ident
      if ← acceptSymbol "," then granteesFrom limit isPublic

/-- The users that privileges are given to. -/
def grantees : Reader Unit := do
  granteesFrom ((← remaining) + 1) false

/-- Privileges granted, behind the keyword. -/
def granting (levels : Levels) : Reader Unit := do
  let _ ← privileges levels
  expectWord "TO"
  grantees
  let _ ← acceptWords ["WITH", "GRANT", "OPTION"]
  if !(← acceptWords ["COPY", "CURRENT", "GRANTS"]) then
    let _ ← acceptWords ["REVOKE", "CURRENT", "GRANTS"]
  identAfter "AS"
  if ← acceptWords ["GRANTED", "BY"] then let _ ← ident

/-- Privileges denied, behind the keyword. -/
def denying (levels : Levels) : Reader Unit := do
  require (← privileges levels)
  expectWord "TO"
  grantees
  dropBehavior
  identAfter "AS"

/-- Privileges revoked, behind the keyword. -/
def revoking (levels : Levels) : Reader Unit := do
  let _ ← privileges levels
  expectWord "FROM"
  grantees
  if ← acceptWords ["GRANTED", "BY"] then let _ ← ident
  dropBehavior

end Grammar
end Sql
end TableReach
