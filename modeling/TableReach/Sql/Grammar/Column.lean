import TableReach.Sql.Grammar.Setting

/-!
# Columns and constraints

The definition of a column with the rules for its values, and the constraints of a
table.  Inside the rules of a column a test for null values and a collation are rules,
so expressions that are not in brackets stop before them.
-/

namespace TableReach
namespace Sql
namespace Grammar

/-- Which of the characteristics of a constraint have been given. -/
structure Characteristics where
  /-- Whether the check can be put off. -/
  deferrable : Bool
  /-- When it is made at first. -/
  initially : Bool
  /-- Whether it is made at all. -/
  enforced : Bool

/-- The characteristics of a constraint beyond those `given`, at most `limit` of them, each once. -/
def characteristicsFrom : Nat → Characteristics → Reader Unit
  | 0, _ => return ()
  | limit + 1, given => do
      if !given.deferrable then
        if ← acceptWords ["NOT", "DEFERRABLE"] then
          return ← characteristicsFrom limit { given with deferrable := true }
        if ← acceptWord "DEFERRABLE" then
          return ← characteristicsFrom limit { given with deferrable := true }
      if !given.initially then
        if ← acceptWord "INITIALLY" then
          let _ ← expectAnyWord ["DEFERRED", "IMMEDIATE"]
          return ← characteristicsFrom limit { given with initially := true }
      if !given.enforced then
        if ← acceptWord "ENFORCED" then
          return ← characteristicsFrom limit { given with enforced := true }
        if ← acceptWords ["NOT", "ENFORCED"] then
          return ← characteristicsFrom limit { given with enforced := true }

/-- The characteristics of a constraint. -/
def characteristics : Reader Unit :=
  characteristicsFrom 3 ⟨false, false, false⟩

/-- Whether a constraint is checked. -/
def enforcement : Reader Unit := do
  if !(← acceptWord "ENFORCED") then
    let _ ← acceptWords ["NOT", "ENFORCED"]

/-- What happens to a row when the row that it refers to changes. -/
def referentialAction : Reader Unit := do
  match ← expectAnyWord ["RESTRICT", "CASCADE", "SET", "NO"] with
  | "SET" => let _ ← expectAnyWord ["NULL", "DEFAULT"]
  | "NO" => expectWord "ACTION"
  | _ => return ()

/-- Which of the clauses of a reference have been given. -/
structure ReferenceClauses where
  /-- How columns that are partly null match. -/
  matched : Bool
  /-- What happens on a deletion. -/
  deletion : Bool
  /-- What happens on an update. -/
  update : Bool

/-- The clauses of a reference beyond those `given`, at most `limit` of them, each once. -/
def referenceClauses : Nat → ReferenceClauses → Reader Unit
  | 0, _ => return ()
  | limit + 1, given => do
      if !given.matched then
        if ← acceptWord "MATCH" then
          let _ ← expectAnyWord ["FULL", "PARTIAL", "SIMPLE"]
          return ← referenceClauses limit { given with matched := true }
      if !given.deletion then
        if ← acceptWords ["ON", "DELETE"] then
          referentialAction
          return ← referenceClauses limit { given with deletion := true }
      if !given.update then
        if ← acceptWords ["ON", "UPDATE"] then
          referentialAction
          return ← referenceClauses limit { given with update := true }

/-- A reference to the rows of a table, behind its keyword. -/
def reference : Reader Unit := do
  let _ ← objectName
  optionalColumns false
  referenceClauses 3 ⟨false, false, false⟩
  characteristics

/-- The value of a rule: an operand in brackets, or an expression. -/
def ruleValue (levels : Levels) : Reader Unit := do
  if ← comesSymbol "(" then
    let _ ← inPlace .ordinary (operand levels)
  else
    let _ ← levels.expression

/-- An expression in round brackets, read as outside of rules. -/
def bracketedCondition (levels : Levels) : Reader Unit := do
  let _ ← bracketed (inPlace .ordinary levels.expression)

/-- How a computed value is kept. -/
def computedMode : Reader Unit := do
  let _ ← acceptAnyWord ["STORED", "VIRTUAL"]

/-- A computed column, behind the keyword; tells whether the words make a rule. -/
def generatedRule (levels : Levels) : Reader Bool := do
  let sequence : Reader Bool := do
    if ← comesSymbol "(" then bracketed sequenceOptions
    return true
  if ← acceptWords ["ALWAYS", "AS", "IDENTITY"] then sequence
  else if ← acceptWords ["BY", "DEFAULT", "AS", "IDENTITY"] then sequence
  else if ← acceptWords ["ALWAYS", "AS"] then
    if ← comesSymbol "(" then
      bracketedCondition levels
      if ← dialectIn [.postgresql] then expectWord "STORED" else computedMode
      return true
    else return false
  else return false

/-- What belongs to a rule behind its one keyword. -/
def keywordRuleParts (levels : Levels) (keyword : String) : Reader Unit := do
  match keyword with
  | "COLLATE" => let _ ← objectName
  | "COMMENT" => commentText
  | "DEFAULT" => ruleValue levels
  | "UNIQUE" => characteristics
  | "REFERENCES" => reference
  | "CHECK" =>
      bracketedCondition levels
      enforcement
  | _ => pure ()

/-- A rule that every dialect knows and that starts with one keyword, if one comes next. -/
def keywordRule (levels : Levels) : Reader Bool := do
  match ← acceptAnyWord
      ["COLLATE", "COMMENT", "NULL", "DEFAULT", "UNIQUE", "REFERENCES", "CHECK"] with
  | none => return false
  | some keyword =>
      keywordRuleParts levels keyword
      return true

/-- A rule that every dialect knows, if one comes next. -/
def standardRule (levels : Levels) : Reader Bool := do
  if ← acceptWords ["CHARACTER", "SET"] then
    let _ ← objectName
    return true
  if ← acceptWords ["NOT", "NULL"] then return true
  if ← acceptWords ["PRIMARY", "KEY"] then
    characteristics
    return true
  keywordRule levels

/-- A rule for a column whose value is computed, if one comes next. -/
def computedRule (levels : Levels) : Reader Bool := do
  match ← acceptAnyWord ["MATERIALIZED", "ALIAS", "EPHEMERAL"] with
  | none => return false
  | some keyword =>
      let absent ←
        if keyword == "EPHEMERAL" then do
          pure ((← comesSymbol ",") || (← comesSymbol ")"))
        else pure false
      if !absent then ruleValue levels
      return true

/-- A rule for a column whose value is computed in one dialect, if one comes next. -/
def derivedRule (levels : Levels) : Reader Bool := do
  if ← dialectIn [.generic] then computedRule levels else return false

/-- A word that is a rule in some dialects and is taken without effect in the others. -/
def wordRule (words : List String) (dialects : List Dialect) : Reader Bool := do
  if ← acceptWords words then dialectIn dialects else return false

/-- The start and the step of a column that counts its rows. -/
def identityBounds : Reader Unit := do
  if ← comesSymbol "(" then
    bracketed do
      signedValue
      expectSymbol ","
      signedValue

/-- A rule of some dialects, if one comes next. -/
def dialectRule (levels : Levels) : Reader Bool := do
  if ← wordRule ["AUTO_INCREMENT"] [.mysql, .generic] then return true
  if ← wordRule ["AUTOINCREMENT"] [.sqlite, .generic] then return true
  if ← wordRule ["ASC"] [.sqlite, .generic] then return true
  if ← wordRule ["DESC"] [.sqlite, .generic] then return true
  if ← wordRule ["ON", "UPDATE"] [.mysql, .generic] then
    ruleValue levels
    return true
  if ← acceptWord "GENERATED" then return ← generatedRule levels
  if ← dialectIn [.generic] then
    if ← acceptWord "OPTIONS" then
      let _ ← bracketedItems (setting levels)
      return true
  if ← wordRule ["AS"] [.mysql, .sqlite, .generic] then
    let _ ← bracketed levels.expression
    computedMode
    return true
  if ← wordRule ["SRID"] [.mysql, .generic] then
    ruleValue levels
    return true
  if ← wordRule ["IDENTITY"] [.generic] then
    identityBounds
    return true
  if ← dialectIn [.sqlite, .generic] then
    if ← acceptWords ["ON", "CONFLICT"] then
      let _ ← expectAnyWord ["ROLLBACK", "ABORT", "FAIL", "IGNORE", "REPLACE"]
      return true
  acceptWord "INVISIBLE"

/-- A rule for the values of a column, if one comes next. -/
def columnRule (levels : Levels) : Reader Bool :=
  inPlace .columnRule do
    if ← standardRule levels then return true
    if ← derivedRule levels then return true
    dialectRule levels

/-- Rules without names. -/
def plainRules (levels : Levels) : Reader Unit := do
  let _ ← many do
    if ← columnRule levels then return some () else return none

/-- In one dialect a column may have no type. -/
def isUntyped : Reader Bool := do
  if ← dialectIn [.sqlite] then
    match ← peek with
    | some lexeme =>
        return !lexeme.token.isWord || ["CONSTRAINT", "PRIMARY", "NOT", "UNIQUE", "CHECK",
          "DEFAULT", "COLLATE", "REFERENCES", "GENERATED", "AS"].contains lexeme.keyword
    | none => return true
  else return false

/-- The definition of a column. -/
def newColumn (levels : Levels) : Reader Unit := do
  let _ ← ident
  if !(← isUntyped) then let _ ← dataType levels
  let _ ← many do
    if ← acceptWord "CONSTRAINT" then
      let _ ← ident
      require (← columnRule levels)
      return some ()
    else if ← columnRule levels then return some ()
    else return none

/-- The kind of an index, behind its keyword if that comes next. -/
def indexKind : Reader Unit := identAfter "USING"

/-- A column of an index, with the class of its operators. -/
def indexColumn (levels : Levels) : Reader Unit := do
  let _ ← levels.expression
  if !(["ASC", "DESC", "NULLS", "WITH"].contains (← nextKeyword)) then
    let _ ← attempt objectName
  let _ ← orderOptions levels

/-- The columns of an index. -/
def indexColumns (levels : Levels) : Reader Unit := do
  let _ ← bracketedList (indexColumn levels)

/-- The options of an index. -/
def indexOptions : Reader Unit := do
  let _ ← many do
    if ← acceptWord "USING" then
      let _ ← ident
      return some ()
    else if ← acceptWord "COMMENT" then
      let _ ← literalString
      return some ()
    else return none

/-- Whether null values are distinct. -/
def nullsDistinct : Reader Unit := do
  if ← acceptWord "NULLS" then
    let _ ← acceptWord "NOT"
    expectWord "DISTINCT"

/-- A name, if one comes next. -/
def optionalIdent : Reader Unit := do
  let _ ← attempt ident

/-- A constraint of unique rows, behind its keyword. -/
def uniqueConstraint (levels : Levels) : Reader Unit := do
  if ← acceptSomeWord ["KEY", "INDEX"] then require (← dialectIn [.generic, .mysql])
  nullsDistinct
  optionalIdent
  indexKind
  indexColumns levels
  indexOptions
  characteristics

/-- A primary key, behind its first keyword. -/
def primaryKey (levels : Levels) : Reader Unit := do
  expectWord "KEY"
  optionalIdent
  indexKind
  indexColumns levels
  indexOptions
  characteristics

/-- A foreign key, behind its first keyword. -/
def foreignKey : Reader Unit := do
  expectWord "KEY"
  optionalIdent
  let _ ← identList
  expectWord "REFERENCES"
  reference

/-- An index without a constraint, behind its keyword. -/
def plainIndex (levels : Levels) : Reader Unit := do
  if !(← comesWord "USING") then optionalIdent
  indexKind
  indexColumns levels
  indexOptions

/-- A constraint of a table, if one comes next. -/
def tableConstraint (levels : Levels) : Reader Bool := do
  let isNamed ← acceptWord "CONSTRAINT"
  if isNamed then let _ ← ident
  let indexed ← dialectIn [.generic, .mysql]
  match ← nextKeyword with
  | "UNIQUE" => skip; uniqueConstraint levels; return true
  | "PRIMARY" => skip; primaryKey levels; return true
  | "FOREIGN" => skip; foreignKey; return true
  | "CHECK" =>
      skip
      let _ ← bracketed levels.expression
      enforcement
      return true
  | "INDEX" | "KEY" =>
      if indexed && !isNamed then
        skip
        plainIndex levels
        return true
      else
        require !isNamed
        return false
  | "FULLTEXT" | "SPATIAL" =>
      require !isNamed
      if indexed then
        skip
        let _ ← acceptAnyWord ["KEY", "INDEX"]
        optionalIdent
        indexColumns levels
        return true
      else return false
  | _ =>
      require !isNamed
      return false

/-- Columns and constraints in round brackets, possibly none; the brackets may be missing. -/
def columnDefinitions (levels : Levels) : Reader Unit := do
  if ← comesSymbol "(" then
    let _ ← bracketedItems do
      if !(← tableConstraint levels) then
        require (((← peek).map fun lexeme => lexeme.token.isWord).getD false)
        newColumn levels

end Grammar
end Sql
end TableReach
