import TableReach.Sql.Grammar.Table
import TableReach.Sql.Grammar.Routine

/-!
# New objects

Statements that create something: tables, views, indexes and routines from the modules
before this one, and here types, roles, sequences and the rest.
-/

namespace TableReach
namespace Sql
namespace Grammar

/-- The name of a user or role; in two dialects the host may follow. -/
def granteeName : Reader Unit := do
  let name ← objectName
  if ← dialectIn [.generic, .mysql] then
    if name.length == 1 then
      if ← acceptSymbol "@" then let _ ← ident

/-- Who owns or may use an object, with commas between. -/
def owners : Reader Unit := do
  let _ ← commaSeparated ident

/-- The conditions of a rule about which rows may be seen. -/
def policyConditions (levels : Levels) : Reader Unit := do
  if ← acceptWord "TO" then owners
  if ← acceptWord "USING" then let _ ← bracketed levels.expression
  if ← acceptWords ["WITH", "CHECK"] then let _ ← bracketed levels.expression

/-- A new rule about which rows may be seen, behind the keyword. -/
def newPolicy (levels : Levels) : Reader Unit := do
  let _ ← ident
  expectWord "ON"
  let _ ← objectName
  if ← acceptWord "AS" then let _ ← expectAnyWord ["PERMISSIVE", "RESTRICTIVE"]
  if ← acceptWord "FOR" then
    let _ ← expectAnyWord ["ALL", "SELECT", "INSERT", "UPDATE", "DELETE"]
  policyConditions levels

/-- A new type with constraints, behind the keyword. -/
def newDomain (levels : Levels) : Reader Unit := do
  let _ ← objectName
  expectWord "AS"
  let _ ← dataType levels
  identAfter "COLLATE"
  expressionAfter levels "DEFAULT"
  let _ ← many do
    if ← tableConstraint levels then return some () else return none

/-- A new macro, behind the keyword. -/
def newMacro (levels : Levels) : Reader Unit := do
  require (← dialectIn [.generic])
  let _ ← objectName
  let _ ← bracketedItems do
    let _ ← ident
    let assigned ← acceptSymbol ":="
    let isGiven ← if assigned then pure true else acceptSymbol "=>"
    if isGiven then let _ ← levels.expression
  expectWord "AS"
  if ← acceptWord "TABLE" then let _ ← levels.query
  else let _ ← levels.expression

/-- Pairs of a name and a value with commas between them. -/
def namePairs : Reader Unit := do
  let _ ← commaSeparated do
    let _ ← ident
    ident

/-- A new secret, behind the keyword. -/
def newSecret : Reader Unit := do
  let _ ← ifNotExists
  if !(← comesSymbol "(") then
    let stored ← acceptWord "IN"
    let found ← looseIdent
    if !(stored && found) then
      if ← acceptWord "IN" then let _ ← looseIdent
  bracketed do
    expectWord "TYPE"
    let _ ← ident
    if ← acceptSymbol "," then namePairs

/-- A new user, behind the keyword. -/
def newUser : Reader Unit := do
  let _ ← ifNotExists
  let _ ← ident
  keyedOptions ["WITH", "TAG"]
  let _ ← acceptWord "WITH"
  if ← acceptWord "TAG" then bracketedOptions

/-- A new extension, behind the keyword. -/
def newExtension : Reader Unit := do
  let _ ← ifNotExists
  let _ ← ident
  if ← acceptWord "WITH" then
    identAfter "SCHEMA"
    identAfter "VERSION"
    let _ ← acceptWord "CASCADE"

/-- A new table that a module provides, behind the first keyword. -/
def virtualTable : Reader Unit := do
  expectWord "TABLE"
  let _ ← ifNotExists
  let _ ← objectName
  expectWord "USING"
  let _ ← ident
  optionalColumns false

/-- A new schema, behind the keyword. -/
def newSchema (levels : Levels) : Reader Unit := do
  let _ ← ifNotExists
  if ← acceptWord "AUTHORIZATION" then let _ ← ident
  else
    let _ ← objectName
    identAfter "AUTHORIZATION"
  if ← acceptWords ["DEFAULT", "COLLATE"] then let _ ← levels.expression
  let _ ← settingsAfter levels ["WITH"]
  let _ ← settingsAfter levels ["OPTIONS"]
  objectNameAfter "CLONE"

/-- A new database, behind the keyword. -/
def newDatabase : Reader Unit := do
  let _ ← ifNotExists
  let _ ← objectName
  let _ ← many do
    if ← acceptSomeWord ["LOCATION", "MANAGEDLOCATION"] then
      let _ ← literalString
      return some ()
    else return none
  objectNameAfter "CLONE"

/-- The kinds of options of a role, each of which can be given once. -/
def roleFlags : List (List String) :=
  [["LOGIN", "NOLOGIN"], ["INHERIT", "NOINHERIT"], ["BYPASSRLS", "NOBYPASSRLS"],
    ["CREATEDB", "NOCREATEDB"], ["CREATEROLE", "NOCREATEROLE"], ["SUPERUSER", "NOSUPERUSER"],
    ["REPLICATION", "NOREPLICATION"]]

/-- The value of the option of a role behind this keyword. -/
def roleValue (keyword : String) : Reader Unit := do
  match keyword with
  | "PASSWORD" => if !(← acceptWord "NULL") then let _ ← value
  | "CONNECTION" =>
      expectWord "LIMIT"
      numberValue
  | "VALID" =>
      expectWord "UNTIL"
      let _ ← value
  | _ => unexpected

/-- The name of the kind of an option of a role, if one comes next. -/
def roleOption : Reader (Option String) := do
  let keyword ← nextKeyword
  match roleFlags.find? (List.contains · keyword) with
  | some flags =>
      skip
      return flags.head?
  | none =>
      if ["PASSWORD", "CONNECTION", "VALID"].contains keyword then
        skip
        roleValue keyword
        return some keyword
      else return none

/-- The members of a role or the roles that it belongs to, if they come next. -/
def roleMembers : Reader (Option String) := do
  match ← acceptAnyWord ["IN", "ROLE", "USER", "ADMIN"] with
  | none => return none
  | some "IN" =>
      let kind ← expectAnyWord ["ROLE", "GROUP"]
      owners
      return some ("IN " ++ kind)
  | some keyword =>
      owners
      return some keyword

/-- A new role, behind the keyword.  Its options are those of one dialect. -/
def newRole : Reader Unit := do
  let _ ← ifNotExists
  let _ ← commaSeparated objectName
  let _ ← acceptWord "WITH"
  if ← dialectIn [.postgresql] then
    let kinds ← many do
      match ← roleOption with
      | some kind => return some kind
      | none => roleMembers
    require (kinds.eraseDups.length == kinds.length)

/-- A new sequence of numbers, behind the keyword. -/
def newSequence (levels : Levels) : Reader Unit := do
  let _ ← ifNotExists
  let _ ← objectName
  if ← acceptWord "AS" then let _ ← dataType levels
  sequenceOptions
  if ← acceptWords ["OWNED", "BY"] then let _ ← objectName

/-- An option of a type of ranges. -/
def rangeTypeOption (levels : Levels) : Reader Unit := do
  let keyword ← expectAnyWord
    ["SUBTYPE", "SUBTYPE_OPCLASS", "COLLATION", "CANONICAL", "SUBTYPE_DIFF",
      "MULTIRANGE_TYPE_NAME"]
  expectSymbol "="
  if keyword == "SUBTYPE" then let _ ← dataType levels
  else let _ ← objectName

/-- The words for functions that a base type is made of. -/
def baseTypeFunctions : List String :=
  ["INPUT", "OUTPUT", "RECEIVE", "SEND", "TYPMOD_IN", "TYPMOD_OUT", "ANALYZE", "SUBSCRIPT", "LIKE"]

/-- The other words for parts of a base type. -/
def baseTypeWords : List String :=
  ["INTERNALLENGTH", "PASSEDBYVALUE", "ALIGNMENT", "STORAGE", "CATEGORY", "PREFERRED", "DEFAULT",
    "ELEMENT", "DELIMITER", "COLLATABLE"]

/-- An option of a base type. -/
def baseTypeOption (levels : Levels) : Reader Unit := do
  let keyword ← expectAnyWord (baseTypeFunctions ++ baseTypeWords)
  if keyword != "PASSEDBYVALUE" then expectSymbol "="
  if baseTypeFunctions.contains keyword then let _ ← objectName
  else
    match keyword with
    | "INTERNALLENGTH" => if !(← acceptWord "VARIABLE") then wholeNumber
    | "ALIGNMENT" => let _ ← expectAnyWord ["CHAR", "INT2", "INT4", "DOUBLE"]
    | "STORAGE" => let _ ← expectAnyWord ["PLAIN", "EXTERNAL", "EXTENDED", "MAIN"]
    | "CATEGORY" | "DELIMITER" => require !(← literalString).isEmpty
    | "PREFERRED" | "COLLATABLE" => let _ ← acceptAnyWord ["TRUE", "FALSE"]
    | "DEFAULT" => let _ ← levels.expression
    | "ELEMENT" => let _ ← dataType levels
    | _ => pure ()

/-- A field of a type made of fields. -/
def compositeField (levels : Levels) : Reader Unit := do
  let _ ← ident
  let _ ← dataType levels
  objectNameAfter "COLLATE"

/-- A new type, behind the keyword. -/
def newType (levels : Levels) : Reader Unit := do
  let _ ← objectName
  if ← acceptWord "AS" then
    if ← acceptWord "ENUM" then let _ ← bracketedItems ident
    else if ← acceptWord "RANGE" then let _ ← bracketedItems (rangeTypeOption levels)
    else let _ ← bracketedItems (compositeField levels)
  else if ← comesSymbol "(" then
    let _ ← bracketedItems (baseTypeOption levels)

/-- A new connector, behind the keyword. -/
def newConnector (levels : Levels) : Reader Unit := do
  let _ ← ifNotExists
  let _ ← ident
  literalStringAfter "TYPE"
  literalStringAfter "URL"
  if ← acceptWord "COMMENT" then
    let _ ← acceptSymbol "="
    commentText
  let _ ← settingsAfter levels ["WITH", "DCPROPERTIES"]

/-- A part of a new operator; gives the kind of the part, each of which can be given once. -/
def operatorPart (levels : Levels) : Reader String := do
  let keyword ← expectAnyWord
    ["FUNCTION", "PROCEDURE", "LEFTARG", "RIGHTARG", "COMMUTATOR", "NEGATOR", "RESTRICT", "JOIN",
      "HASHES", "MERGES"]
  if keyword != "HASHES" && keyword != "MERGES" then expectSymbol "="
  match keyword with
  | "FUNCTION" | "PROCEDURE" =>
      let _ ← objectName
      return "FUNCTION"
  | "RESTRICT" | "JOIN" =>
      let _ ← objectName
      return keyword
  | "LEFTARG" | "RIGHTARG" =>
      let _ ← dataType levels
      return keyword
  | "COMMUTATOR" | "NEGATOR" =>
      if ← acceptWord "OPERATOR" then bracketed operatorName else operatorName
      return keyword
  | _ => return keyword

/-- A new operator, behind the keyword. -/
def newOperator (levels : Levels) : Reader Unit := do
  operatorName
  let parts ← bracketedList (operatorPart levels)
  require (parts.eraseDups.length == parts.length && parts.contains "FUNCTION")

/-- The types of the two operands of an operator, of which the first may be absent. -/
def operandTypes (levels : Levels) : Reader Unit :=
  bracketed do
    if !(← acceptWord "NONE") then let _ ← dataType levels
    expectSymbol ","
    let _ ← dataType levels

/-- The purpose of an operator in a class. -/
def operatorPurpose : Reader Unit := do
  if ← acceptWord "FOR" then
    if !(← acceptWord "SEARCH") then
      expectWords ["ORDER", "BY"]
      let _ ← objectName

/-- A member of a class of operators, if one comes next. -/
def operatorClassItem (levels : Levels) : Reader Bool := do
  let types := bracketedItems (dataType levels)
  match ← acceptAnyWord ["OPERATOR", "FUNCTION", "STORAGE"] with
  | some "OPERATOR" =>
      wholeNumber
      operatorName
      if ← comesSymbol "(" then
        bracketed do
          let _ ← dataType levels
          expectSymbol ","
          let _ ← dataType levels
      operatorPurpose
      return true
  | some "FUNCTION" =>
      wholeNumber
      if ← comesSymbol "(" then let _ ← bracketedList (dataType levels)
      let _ ← objectName
      if ← comesSymbol "(" then let _ ← types
      return true
  | some _ =>
      let _ ← dataType levels
      return true
  | none => return false

/-- A new class of operators, behind the keywords. -/
def newOperatorClass (levels : Levels) : Reader Unit := do
  let _ ← objectName
  let _ ← acceptWord "DEFAULT"
  expectWords ["FOR", "TYPE"]
  let _ ← dataType levels
  expectWord "USING"
  let _ ← ident
  objectNameAfter "FAMILY"
  expectWord "AS"
  let _ ← many do
    if ← operatorClassItem levels then
      if ← acceptSymbol "," then return some () else return none
    else return none

/-- A new server, behind the keyword. -/
def newServer : Reader Unit := do
  let _ ← ifNotExists
  let _ ← objectName
  identAfter "TYPE"
  identAfter "VERSION"
  expectWords ["FOREIGN", "DATA", "WRAPPER"]
  let _ ← objectName
  if ← acceptWord "OPTIONS" then bracketed namePairs

/-- How a view is computed and with whose rights, in front of its keyword. -/
def viewMode : Reader Unit := do
  if ← acceptWord "ALGORITHM" then
    expectSymbol "="
    let _ ← expectAnyWord ["UNDEFINED", "MERGE", "TEMPTABLE"]
  if ← acceptWord "DEFINER" then
    expectSymbol "="
    granteeName
  if ← acceptWords ["SQL", "SECURITY"] then
    let _ ← expectAnyWord ["DEFINER", "INVOKER"]

/-- A view comes next. -/
def comesView : Reader Bool := do
  match ← nextKeyword with
  | "MATERIALIZED" | "VIEW" => return true
  | "SECURE" =>
      let second ← keywordAt 1
      return second == "VIEW" || (second == "MATERIALIZED" && (← keywordAt 2) == "VIEW")
  | _ => return false

/-- A new object of a kind that can also replace another one; tells whether one came. -/
def replaceableObject (levels : Levels) : Reader Bool := do
  if ← comesView then
    newView levels
    return true
  if ← acceptWords ["CONSTRAINT", "TRIGGER"] then
    newTrigger levels characteristics
    return true
  match ← acceptAnyWord
      ["TABLE", "POLICY", "EXTERNAL", "FUNCTION", "DOMAIN", "TRIGGER", "MACRO", "SECRET",
        "USER"] with
  | none => return false
  | some keyword =>
      match keyword with
      | "TABLE" => newTable levels
      | "POLICY" => newPolicy levels
      | "EXTERNAL" => externalTable levels
      | "FUNCTION" => newFunction levels
      | "DOMAIN" => newDomain levels
      | "TRIGGER" => newTrigger levels characteristics
      | "MACRO" => newMacro levels
      | "SECRET" => newSecret
      | _ => newUser
      return true

/-- A new operator, or a family or class of operators, behind the keyword. -/
def operatorObject (levels : Levels) : Reader Unit := do
  if ← acceptWord "FAMILY" then
    let _ ← objectName
    expectWord "USING"
    let _ ← ident
  else if ← acceptWord "CLASS" then newOperatorClass levels
  else newOperator levels

/-- A new object of a kind that cannot replace another one. -/
def plainObject (levels : Levels) : Reader Unit := do
  if ← acceptWords ["UNIQUE", "INDEX"] then newIndex levels
  else
    match ← expectAnyWord
        ["EXTENSION", "INDEX", "VIRTUAL", "SCHEMA", "DATABASE", "ROLE", "SEQUENCE", "TYPE",
          "PROCEDURE", "CONNECTOR", "OPERATOR", "SERVER"] with
    | "EXTENSION" => newExtension
    | "INDEX" => newIndex levels
    | "VIRTUAL" => virtualTable
    | "SCHEMA" => newSchema levels
    | "DATABASE" => newDatabase
    | "ROLE" => newRole
    | "SEQUENCE" => newSequence levels
    | "TYPE" => newType levels
    | "PROCEDURE" => newProcedure levels
    | "CONNECTOR" => newConnector levels
    | "OPERATOR" => operatorObject levels
    | _ => newServer

/-- A new object, behind the word that creates it. -/
def creation (levels : Levels) : Reader Unit := do
  let replaces ← acceptWords ["OR", "REPLACE"]
  let _ ← acceptWords ["OR", "ALTER"]
  let _ ← acceptWord "LOCAL"
  let _ ← acceptWord "GLOBAL"
  let _ ← acceptWord "TRANSIENT"
  let _ ← acceptAnyWord ["TEMP", "TEMPORARY"]
  viewMode
  if !(← replaceableObject levels) then
    require !replaces
    plainObject levels

end Grammar
end Sql
end TableReach
