import TableReach.Sql.Grammar.Setting

/-!
# Copied rows

Statements that copy rows between tables and files, with the options of the files.
-/

namespace TableReach
namespace Sql
namespace Grammar

/-- The word between an option and its value, which may be left out. -/
def optionalAs : Reader Unit := do
  let _ ← acceptWord "AS"

/-- Yes or no, which may be left out. -/
def optionalFlag : Reader Unit := do
  let _ ← acceptAnyWord ["TRUE", "FALSE"]

/-- On or off, which may be left out. -/
def optionalSwitch : Reader Unit := do
  let _ ← acceptAnyWord ["TRUE", "FALSE", "ON", "OFF"]

/-- A string in single quotes, which may be left out. -/
def optionalString : Reader Unit := do
  optionalAs
  if ← comesSingleQuoted then let _ ← literalString

/-- The size of a file. -/
def fileSize : Reader Unit := do
  optionalAs
  numberValue
  let _ ← acceptAnyWord ["MB", "GB"]

/-- An option in round brackets. -/
def copyOption : Reader Unit := do
  match ← expectAnyWord
      ["FORMAT", "FREEZE", "DELIMITER", "NULL", "HEADER", "QUOTE", "ESCAPE", "FORCE_QUOTE",
        "FORCE_NOT_NULL", "FORCE_NULL", "ENCODING"] with
  | "FORMAT" => let _ ← ident
  | "FREEZE" | "HEADER" => optionalFlag
  | "DELIMITER" | "QUOTE" | "ESCAPE" => literalCharacter
  | "NULL" | "ENCODING" => let _ ← literalString
  | _ => let _ ← identList

/-- An option of a file with separated values. -/
def separatedOption : Reader Unit := do
  match ← expectAnyWord ["HEADER", "QUOTE", "ESCAPE", "FORCE"] with
  | "HEADER" => return ()
  | "FORCE" =>
      if !(← acceptWords ["NOT", "NULL"]) then expectWord "QUOTE"
      let _ ← commaSeparated ident
  | _ =>
      optionalAs
      literalCharacter

/-- A reader's values until it fails. -/
def whilePossible (reader : Reader Unit) : Reader Unit := do
  let _ ← many (attempt reader)

/-- The role with which files are reached. -/
def accessRole : Reader Unit := do
  if !(← acceptWord "DEFAULT") then let _ ← literalString

/-- Options without brackets that are words alone. -/
def bareOptions : List String :=
  ["ACCEPTANYDATE", "ADDQUOTES", "ALLOWOVERWRITE", "BINARY", "BLANKSASNULL", "BZIP2", "CLEANPATH",
    "EMPTYASNULL", "ESCAPE", "GZIP", "HEADER", "JSON", "PARQUET", "REMOVEQUOTES",
    "TRUNCATECOLUMNS", "ZSTD"]

/-- Options without brackets that have a value. -/
def valuedOptions : List String :=
  ["ACCEPTINVCHARS", "COMPUPDATE", "CREDENTIALS", "CSV", "DATEFORMAT", "DELIMITER", "ENCRYPTED",
    "EXTENSION", "FIXEDWIDTH", "IAM_ROLE", "IGNOREHEADER", "MANIFEST", "MAXFILESIZE", "NULL",
    "PARALLEL", "PARTITION", "REGION", "ROWGROUPSIZE", "STATUPDATE", "TIMEFORMAT"]

/-- The value of an option without brackets. -/
def optionValue (keyword : String) : Reader Unit := do
  match keyword with
  | "ACCEPTINVCHARS" | "DATEFORMAT" | "TIMEFORMAT" => optionalString
  | "COMPUPDATE" =>
      let _ ← acceptWord "PRESET"
      optionalSwitch
  | "PARALLEL" | "STATUPDATE" => optionalSwitch
  | "CREDENTIALS" | "EXTENSION" | "FIXEDWIDTH" => let _ ← literalString
  | "NULL" | "REGION" =>
      optionalAs
      let _ ← literalString
  | "CSV" => whilePossible separatedOption
  | "DELIMITER" =>
      optionalAs
      literalCharacter
  | "ENCRYPTED" => let _ ← acceptWord "AUTO"
  | "MANIFEST" => let _ ← acceptWord "VERBOSE"
  | "IAM_ROLE" => accessRole
  | "IGNOREHEADER" =>
      optionalAs
      wholeNumber
  | "MAXFILESIZE" | "ROWGROUPSIZE" => fileSize
  | "PARTITION" =>
      expectWord "BY"
      let _ ← identList
      let _ ← acceptWord "INCLUDE"
  | _ => return ()

/-- An option without brackets. -/
def unbracketedOption : Reader Unit := do
  if ← acceptWord "FORMAT" then optionalAs
  optionValue (← expectAnyWord (bareOptions ++ valuedOptions))

/-- Take everything up to the mark that ends rows in the text itself. -/
def skipRows : Reader Unit := do
  let _ ← many do
    match ← peek with
    | none => return none
    | some lexeme =>
        skip
        if lexeme.token == .symbol "\\" then
          if ← acceptSymbol "." then return none
          skip
        return some ()

/-- Rows copied to or from a file, behind the keyword. -/
def copying (levels : Levels) : Reader Unit := do
  let isQuery ← comesSymbol "("
  if isQuery then
    let _ ← bracketed levels.query
  else
    let _ ← objectName
    optionalColumns false
  let direction ← expectAnyWord ["FROM", "TO"]
  require !(isQuery && direction == "FROM")
  let place ← acceptAnyWord ["STDIN", "STDOUT", "PROGRAM"]
  if place.isNone || place == some "PROGRAM" then let _ ← literalString
  let _ ← acceptWord "WITH"
  if ← comesSymbol "(" then let _ ← bracketedList copyOption
  whilePossible unbracketedOption
  if place == some "STDIN" then
    expectSymbol ";"
    skipRows

/-- Rows of a query written to files, behind the keyword. -/
def unloading (levels : Levels) : Reader Unit := do
  bracketed do
    if ← comesSingleQuoted then
      let _ ← literalString
    else
      let _ ← levels.query
  expectWord "TO"
  let _ ← ident
  if ← acceptWord "IAM_ROLE" then accessRole
  let _ ← settingsAfter levels ["WITH"]
  whilePossible unbracketedOption

end Grammar
end Sql
end TableReach
