import TableReach.Sql.Grammar.Creation

/-!
# Removed objects

Statements that remove objects, or all rows of tables.
-/

namespace TableReach
namespace Sql
namespace Grammar

/-- Removed objects of a kind that is given by name only, behind the keyword of the kind. -/
def namedRemoval (kind : String) : Reader Unit := do
  ifExists
  let _ ← commaSeparated objectName
  let cascade ← acceptWord "CASCADE"
  let restrict ← acceptWord "RESTRICT"
  let purge ← acceptWord "PURGE"
  require !(cascade && restrict)
  require !(kind == "ROLE" && (cascade || restrict || purge))
  objectNameAfter "ON"

/-- Removed functions or procedures, behind the keyword. -/
def routineRemoval (levels : Levels) : Reader Unit := do
  ifExists
  let _ ← commaSeparated (functionSignature levels)
  dropBehavior

/-- A removed rule about which rows may be seen, behind the keyword. -/
def policyRemoval : Reader Unit := do
  ifExists
  let _ ← ident
  expectWord "ON"
  let _ ← objectName
  dropBehavior

/-- A removed trigger, behind the keyword. -/
def triggerRemoval : Reader Unit := do
  ifExists
  let _ ← objectName
  objectNameAfter "ON"
  dropBehavior

/-- Removed operators, or families or classes of operators, behind the keyword. -/
def operatorRemoval (levels : Levels) : Reader Unit := do
  if ← acceptSomeWord ["FAMILY", "CLASS"] then
    ifExists
    let _ ← commaSeparated objectName
    expectWord "USING"
    let _ ← ident
  else
    ifExists
    let _ ← commaSeparated do
      operatorName
      operandTypes levels
  dropBehavior

/-- Removed objects, behind the word that removes them. -/
def removal (levels : Levels) : Reader Unit := do
  if ← dialectIn [.mysql, .generic] then let _ ← acceptWord "TEMPORARY"
  if ← acceptWords ["MATERIALIZED", "VIEW"] then namedRemoval "VIEW"
  else
    let kind ← expectAnyWord
      ["TABLE", "VIEW", "INDEX", "ROLE", "SCHEMA", "DATABASE", "SEQUENCE", "STAGE", "TYPE", "USER",
        "STREAM", "FUNCTION", "POLICY", "CONNECTOR", "DOMAIN", "PROCEDURE", "SECRET", "TRIGGER",
        "EXTENSION", "OPERATOR"]
    match kind with
    | "FUNCTION" | "PROCEDURE" => routineRemoval levels
    | "POLICY" => policyRemoval
    | "CONNECTOR" =>
        ifExists
        let _ ← ident
    | "DOMAIN" =>
        ifExists
        let _ ← objectName
        dropBehavior
    | "SECRET" =>
        ifExists
        let _ ← ident
        if ← acceptWord "FROM" then let _ ← looseIdent
    | "TRIGGER" => triggerRemoval
    | "EXTENSION" =>
        ifExists
        owners
        dropBehavior
    | "OPERATOR" => operatorRemoval levels
    | _ => namedRemoval kind

/-- Tables that lose all their rows, behind the keyword. -/
def truncation (levels : Levels) : Reader Unit := do
  let _ ← acceptWord "TABLE"
  let _ ← acceptWord "ONLY"
  let _ ← commaSeparated objectName
  if ← acceptWord "PARTITION" then bracketedExpressions levels
  if ← dialectIn [.postgresql, .generic] then
    if !(← acceptWords ["RESTART", "IDENTITY"]) then
      let _ ← acceptWords ["CONTINUE", "IDENTITY"]
    dropBehavior
  onCluster

end Grammar
end Sql
end TableReach
