import TableReach.Sql.Grammar.Change

/-!
# Settings of tables and other objects

Clauses that many statements share: settings in round brackets, words that say what
happens to an object that exists or is missing, and the options of a sequence of
numbers.  Nothing of them enters the tree.
-/

namespace TableReach
namespace Sql
namespace Grammar

/-- Words for an object that may be missing. -/
def ifExists : Reader Unit := do
  let _ ← acceptWords ["IF", "EXISTS"]

/-- Words for an object that may exist already. -/
def ifNotExists : Reader Bool := acceptWords ["IF", "NOT", "EXISTS"]

/-- What happens to objects that depend on another one. -/
def dropBehavior : Reader Unit := do
  let _ ← acceptAnyWord ["CASCADE", "RESTRICT"]

/-- The cluster that a statement runs on. -/
def onCluster : Reader Unit := do
  if ← acceptWords ["ON", "CLUSTER"] then let _ ← ident

/-- An expression behind the keyword, if it comes next. -/
def expressionAfter (levels : Levels) (word : String) : Reader Unit := do
  if ← acceptWord word then let _ ← levels.expression

/-- Expressions in round brackets. -/
def bracketedExpressions (levels : Levels) : Reader Unit := do
  let _ ← bracketedList levels.expression

/-- A name behind the keyword, if it comes next. -/
def identAfter (word : String) : Reader Unit := do
  if ← acceptWord word then let _ ← ident

/-- A dotted name behind the keyword, if it comes next. -/
def objectNameAfter (word : String) : Reader Unit := do
  if ← acceptWord word then let _ ← objectName

/-- A string behind the keyword, if it comes next. -/
def literalStringAfter (word : String) : Reader Unit := do
  if ← acceptWord word then let _ ← literalString

/-- A name, or any other lexeme in its place. -/
def looseIdent : Reader Bool := do
  match ← peek with
  | none => return false
  | some lexeme =>
      skip
      return (identOf? lexeme.token).isSome

/-- A dotted name, of which a part may be any other lexeme; that part ends it. -/
def looseName : Reader Unit := do
  let _ ← many do
    if ← looseIdent then
      if ← acceptSymbol "." then return some () else return none
    else return none

/-- A comment on an object: a string in single quotes or between tags. -/
def commentText : Reader Unit := do
  match (← next).token with
  | .singleQuoted _ => return ()
  | .literal .tagged _ => return ()
  | _ => unexpected

/-- A text of the setting that clusters the rows of a table. -/
def clusteringSetting : Reader Unit := do
  if ← acceptWords ["CLUSTERED", "COLUMNSTORE", "INDEX", "ORDER"] then let _ ← identList
  else if ← acceptWords ["CLUSTERED", "COLUMNSTORE", "INDEX"] then pure ()
  else
    expectWords ["CLUSTERED", "INDEX"]
    let _ ← bracketedList do
      let _ ← ident
      acceptAnyWord ["ASC", "DESC"]

/-- The setting that divides the rows of a table by ranges of values. -/
def rangeSetting (levels : Levels) : Reader Unit := do
  expectWord "PARTITION"
  bracketed do
    let _ ← ident
    expectWord "RANGE"
    let _ ← acceptAnyWord ["LEFT", "RIGHT"]
    expectWords ["FOR", "VALUES"]
    bracketedExpressions levels

/-- A setting: a name and its value.  In one dialect some words are settings of their own. -/
def setting (levels : Levels) : Reader Unit := do
  let special ← dialectIn [.generic]
  match ← if special then nextKeyword else pure "" with
  | "HEAP" => skip
  | "PARTITION" => rangeSetting levels
  | "CLUSTERED" => clusteringSetting
  | _ =>
      let _ ← ident
      expectSymbol "="
      let _ ← levels.expression

/-- Settings in round brackets behind the keywords, if these come next; tells whether there are
any. -/
def settingsAfter (levels : Levels) (words : List String) : Reader Bool := do
  if ← acceptWords words then
    return !(← bracketedItems (setting levels)).isEmpty
  else return false

/-- The value of a keyed option, in which options are nested at most `depth` deep. -/
def keyedValue (inner : Reader Unit) : Reader Unit := do
  expectSymbol "="
  match (← peek).map Lexeme.token with
  | some (.singleQuoted _) | some (.number _ _) => let _ ← value
  | some (.word _ _) =>
      if ["TRUE", "FALSE"].contains (← nextKeyword) then let _ ← value else skip
  | some (.symbol "(") =>
      match ← attempt (bracketedItems value) with
      | some _ => pure ()
      | none => inner
  | _ => unexpected

/-- Keyed options up to a closing bracket or, without brackets, to the end of the statement or one
of the words `ending`. -/
def keyedOptionsWith
    (inner : Reader Unit)
    (isBracketed : Bool)
    (ending : List String) : Reader Unit := do
  if isBracketed then expectSymbol "("
  let _ ← many do
    match ← peek with
    | none => return none
    | some lexeme =>
        match lexeme.token with
        | .symbol ")" =>
            require isBracketed
            skip
            return none
        | .symbol ";" => return none
        | .symbol "," => skip; return some ()
        | .word _ _ =>
            if ending.contains lexeme.keyword then return none
            else
              skip
              keyedValue inner
              return some ()
        | _ => unexpected

/-- Keyed options in round brackets, nested at most `depth` deep. -/
def nestedOptions : Nat → Reader Unit
  | 0 => unexpected
  | depth + 1 => keyedOptionsWith (nestedOptions depth) true []

/-- Keyed options in round brackets. -/
def bracketedOptions : Reader Unit := do
  nestedOptions ((← remaining) + 1)

/-- Keyed options without brackets, up to one of the words `ending`. -/
def keyedOptions (ending : List String) : Reader Unit := do
  keyedOptionsWith bracketedOptions false ending

/-- A bound of a sequence of numbers, which may be excluded. -/
def sequenceBound (word : String) : Reader Unit := do
  if ← acceptWord word then signedValue
  else let _ ← acceptWords ["NO", word]

/-- The options of a sequence of numbers. -/
def sequenceOptions : Reader Unit := do
  if ← acceptWord "INCREMENT" then
    let _ ← acceptWord "BY"
    signedValue
  sequenceBound "MINVALUE"
  sequenceBound "MAXVALUE"
  if ← acceptWord "START" then
    let _ ← acceptWord "WITH"
    signedValue
  if ← acceptWord "CACHE" then signedValue
  if !(← acceptWords ["NO", "CYCLE"]) then
    let _ ← acceptWord "CYCLE"

end Grammar
end Sql
end TableReach
