import TableReach.Sql.Grammar.Setting

/-!
# Routines

Statements with statements inside: choices, loops, functions, procedures and triggers.
A list of statements ends each of them with a semicolon and stops before a word that
ends the list.
-/

namespace TableReach
namespace Sql
namespace Grammar

/-- Statements that each end with a semicolon, up to one of the words `ending` or the end of the
text. -/
def statementList (levels : Levels) (ending : List String) : Reader Unit := do
  let _ ← many do
    if (← remaining) == 0 || ending.contains (← nextKeyword) then return none
    else
      let _ ← levels.statement
      expectSymbol ";"
      return some ()

/-- Statements, possibly between words that open and close a block. -/
def block (levels : Levels) (ending : List String) : Reader Unit := do
  if ← acceptWord "BEGIN" then
    statementList levels ending
    expectWord "END"
  else statementList levels ending

/-- A condition and the statements that run if it holds. -/
def conditionalBlock (levels : Levels) (ending : List String) : Reader Unit := do
  let _ ← levels.expression
  expectWord "THEN"
  block levels ending

/-- One part or more with a keyword between them. -/
def wordSeparated (word : String) (part : Reader Unit) : Reader Unit := do
  part
  let _ ← many do
    if ← acceptWord word then return some (← part) else return none

/-- The statements that run if no condition holds. -/
def otherwiseBlock (levels : Levels) : Reader Unit := do
  if ← acceptWord "ELSE" then block levels ["END"]

/-- A choice between statements by cases, behind the keyword. -/
def caseStatement (levels : Levels) : Reader Unit := do
  if !(← comesWord "WHEN") then let _ ← levels.expression
  expectWord "WHEN"
  wordSeparated "WHEN" (conditionalBlock levels ["WHEN", "ELSE", "END"])
  otherwiseBlock levels
  expectWord "END"
  let _ ← acceptWord "CASE"

/-- A choice between statements by conditions, behind the keyword. -/
def ifStatement (levels : Levels) : Reader Unit := do
  conditionalBlock levels ["ELSE", "ELSEIF", "END"]
  if ← acceptWord "ELSEIF" then
    wordSeparated "ELSEIF" (conditionalBlock levels ["ELSEIF", "ELSE", "END"])
  otherwiseBlock levels
  expectWords ["END", "IF"]

/-- A loop, behind the keyword. -/
def whileStatement (levels : Levels) : Reader Unit := do
  let _ ← levels.expression
  block levels ["END"]

/-- An error that a statement raises, behind the keyword. -/
def raiseStatement (levels : Levels) : Reader Unit := do
  if ← acceptWords ["USING", "MESSAGE"] then
    expectSymbol "="
    let _ ← levels.expression
  else
    let _ ← attempt levels.expression

/-- An error with a severity and a state, behind the keyword. -/
def raisedError (levels : Levels) : Reader Unit := do
  bracketed do
    let _ ← levels.expression
    expectSymbol ","
    let _ ← levels.expression
    expectSymbol ","
    let _ ← levels.expressions
  if ← acceptWord "WITH" then
    let _ ← commaSeparated (expectAnyWord ["LOG", "NOWAIT", "SETERROR"])

/-- The direction of an argument. -/
def argumentMode : Reader Unit := do
  let _ ← acceptAnyWord ["IN", "OUT", "INOUT"]

/-- An argument of a function: a type, with a name before it if two types come, and a value that it
has if it is left out.  The name ends with a word. -/
def functionArgument (levels : Levels) : Reader Unit := do
  argumentMode
  let start ← get
  let _ ← dataType levels
  let taken := start.take (start.length - (← remaining))
  let second ←
    if ← comesWord "DEFAULT" then pure none else attempt (dataType levels)
  if second.isSome then
    require ((taken.getLast?.map fun lexeme => lexeme.token.isWord).getD false)
  let hasDefault ← acceptWord "DEFAULT"
  let isGiven ← if hasDefault then pure true else acceptSymbol "="
  if isGiven then let _ ← levels.expression

/-- A function by its name and the types of its arguments. -/
def functionSignature (levels : Levels) : Reader Unit := do
  let _ ← objectName
  if ← comesSymbol "(" then let _ ← bracketedItems (functionArgument levels)

/-- The text of a function. -/
def functionText : Reader Unit := do
  match (← peek).map Lexeme.token with
  | some (.literal .tagged _) => skip
  | _ => let _ ← literalString

/-- The parts of a function's definition, each of which can be given once. -/
inductive FunctionPart where
  | body
  | language
  | behavior
  | nullInput
  | parallel
deriving DecidableEq

/-- A part of a function's definition, if one comes next. -/
def functionPart (levels : Levels) : Reader (Option FunctionPart) := do
  if ← acceptWords ["CALLED", "ON", "NULL", "INPUT"] then return some .nullInput
  if ← acceptWords ["RETURNS", "NULL", "ON", "NULL", "INPUT"] then return some .nullInput
  match ← acceptAnyWord
      ["AS", "LANGUAGE", "IMMUTABLE", "STABLE", "VOLATILE", "STRICT", "PARALLEL", "RETURN"] with
  | some "AS" =>
      functionText
      if ← acceptSymbol "," then functionText
      return some .body
  | some "LANGUAGE" =>
      let _ ← ident
      return some .language
  | some "STRICT" => return some .nullInput
  | some "PARALLEL" =>
      let _ ← expectAnyWord ["UNSAFE", "RESTRICTED", "SAFE"]
      return some .parallel
  | some "RETURN" =>
      let _ ← levels.expression
      return some .body
  | some _ => return some .behavior
  | none => return none

/-- A new function, behind the keyword. -/
def newFunction (levels : Levels) : Reader Unit := do
  require (← dialectIn [.postgresql, .generic])
  let _ ← objectName
  let _ ← bracketedItems (functionArgument levels)
  if ← acceptWord "RETURNS" then let _ ← dataType levels
  let parts ← many (functionPart levels)
  require (parts.eraseDups.length == parts.length)

/-- A parameter of a procedure. -/
def procedureParameter (levels : Levels) : Reader Unit := do
  argumentMode
  let _ ← ident
  let _ ← dataType levels
  if ← acceptSymbol "=" then let _ ← levels.expression

/-- The parameters of a procedure; a comma may stand in place of one. -/
def procedureParameters (levels : Levels) : Reader Unit := do
  if ← acceptSymbol "(" then
    if ← acceptSymbol ")" then return ()
    let _ ← many do
      if ((← peek).map fun lexeme => lexeme.token.isWord).getD false then
        procedureParameter levels
      let more ← acceptSymbol ","
      if ← acceptSymbol ")" then return none
      require more
      return some ()

/-- A new procedure, behind the keyword. -/
def newProcedure (levels : Levels) : Reader Unit := do
  let _ ← objectName
  procedureParameters levels
  identAfter "LANGUAGE"
  expectWord "AS"
  block levels ["END"]

/-- When a trigger runs. -/
def triggerPeriod : Reader Unit := do
  if (← expectAnyWord ["FOR", "BEFORE", "AFTER", "INSTEAD"]) == "INSTEAD" then expectWord "OF"

/-- What makes a trigger run. -/
def triggerEvent : Reader Unit := do
  if (← expectAnyWord ["INSERT", "UPDATE", "DELETE", "TRUNCATE"]) == "UPDATE" then
    if ← acceptWord "OF" then let _ ← commaSeparated ident

/-- A name for the old or new rows of a trigger's table, if one comes next. -/
def triggerRows : Reader (Option Unit) := do
  if ← acceptSomeWord ["OLD", "NEW"] then
    if ← acceptWord "TABLE" then
      let _ ← acceptWord "AS"
      let _ ← objectName
      return some ()
    else return none
  else return none

/-- A new trigger, behind the keyword; `characteristics` reads those of its constraint. -/
def newTrigger (levels : Levels) (characteristics : Reader Unit) : Reader Unit := do
  let _ ← objectName
  let _ ← attempt triggerPeriod
  wordSeparated "OR" triggerEvent
  expectWord "ON"
  let _ ← objectName
  if ← acceptWord "FROM" then looseName
  characteristics
  if ← acceptWord "REFERENCING" then let _ ← many triggerRows
  if ← acceptWord "FOR" then
    let _ ← acceptWord "EACH"
    let _ ← expectAnyWord ["ROW", "STATEMENT"]
  expressionAfter levels "WHEN"
  if ← acceptWord "EXECUTE" then
    let _ ← expectAnyWord ["FUNCTION", "PROCEDURE"]
    functionSignature levels
  else block levels ["END"]

end Grammar
end Sql
end TableReach
