import TableReach.Sql.Grammar.Query

/-!
# Steps behind a query

In one dialect the rows of a query go through steps that are written behind it, each
with a mark of its own: columns are added, dropped or renamed, rows are selected,
grouped or ordered, and further sources are joined.
-/

namespace TableReach
namespace Sql
namespace Grammar

/-- An assignment to a column or to several of them. -/
def assignment (levels : Levels) : Reader Expr := do
  if ← comesSymbol "(" then let _ ← objectNameList
  else let _ ← objectName
  expectSymbol "="
  levels.expression

/-- Assignments with commas between them. -/
def assignments (levels : Levels) : Reader (List Expr) := commaSeparated (assignment levels)

/-- Columns with commas between them. -/
def givenColumns (levels : Levels) : Reader (List Expr) := do
  return (← commaSeparated (column levels)).flatten

/-- Take the next lexeme unless it ends the statement or is the mark of an assignment. -/
def skipInside : Reader (Option Unit) := do
  match ← peek with
  | none => return none
  | some lexeme =>
      if lexeme.token == .symbol ";" || lexeme.token == .symbol "=" then return none
      else
        skip
        return some ()

/-- Take everything up to the end of the statement or an assignment. -/
def skipToEnd : Reader Unit := do
  let _ ← many skipInside

/-- A value with its second name and its place in the order of groups. -/
def aggregate (levels : Levels) : Reader Expr := do
  let found ← levels.expression
  let _ ← secondName ["ASC", "DESC", "GROUP"]
  let _ ← acceptAnyWord ["ASC", "DESC"]
  return found

/-- Values and the groups that they are computed for. -/
def aggregation (levels : Levels) : Reader (List Expr) := do
  let found ←
    if ← comesWord "GROUP" then pure [] else commaSeparated (aggregate levels)
  return found ++ (← afterWords ["GROUP", "BY"] (commaSeparated (aggregate levels)))

/-- Queries in round brackets that the rows are combined with. -/
def combinedQueries (levels : Levels) : Reader (List Expr) :=
  commaSeparated (do return .subquery (← bracketed levels.query))

/-- Queries that the rows are compared with, without repetitions. -/
def distinctQueries (levels : Levels) : Reader (List Expr) := do
  expectWord "DISTINCT"
  let _ ← acceptWords ["BY", "NAME"]
  combinedQueries levels

/-- The second name of the rows of a step. -/
def stepLabel : Reader Unit := do
  if ← acceptWord "AS" then let _ ← ident
  else let _ ← attempt ident

/-- Rows turned into columns, as a step. -/
def turningRows (levels : Levels) : Reader (List Expr) := do
  let found ← bracketed do
    let aggregates ← commaSeparated (namedCall levels)
    expectWord "FOR"
    let _ ← objectName
    expectWord "IN"
    return aggregates ++ (← bracketed (turnedValues levels))
  stepLabel
  return found

/-- Columns turned into rows, as a step. -/
def turningColumns : Reader (List Expr) := do
  bracketed do
    let _ ← ident
    expectWord "FOR"
    let _ ← ident
    expectWord "IN"
    let _ ← identList
  stepLabel
  return []

/-- The expressions of a step, behind its keyword. -/
def stepParts (levels : Levels) (keyword : String) : Reader (List Expr) := do
  match keyword with
  | "SELECT" | "EXTEND" => givenColumns levels
  | "SET" => assignments levels
  | "DROP" => skipToEnd; return []
  | "AS" => let _ ← ident; return []
  | "WHERE" => return [← levels.expression]
  | "LIMIT" =>
      let count ← levels.expression
      return count :: (← afterWord "OFFSET" (do return [← levels.expression]))
  | "AGGREGATE" => aggregation levels
  | "ORDER" => expectWord "BY"; orderKeys levels
  | "TABLESAMPLE" => sampleClauses levels
  | "RENAME" =>
      let _ ← commaSeparated do
        let _ ← ident
        let _ ← acceptWord "AS"
        ident
      return []
  | "UNION" => combinationQuantifier; combinedQueries levels
  | "INTERSECT" | "EXCEPT" => distinctQueries levels
  | "CALL" =>
      let _ ← objectName
      let found ← call levels
      stepLabel
      return [found]
  | "PIVOT" => turningRows levels
  | "UNPIVOT" => turningColumns
  | _ => unexpected

/-- One step behind its mark. -/
def step (levels : Levels) : Reader Step := do
  if ["JOIN", "INNER", "LEFT", "RIGHT", "FULL", "CROSS"].contains (← nextKeyword) then
    match ← many (join levels) with
    | [joined] => return .join joined
    | _ => unexpected
  else return .compute (← stepParts levels (← next).keyword)

/-- The steps behind a query, in the dialect that has them. -/
def steps (levels : Levels) : Reader (List Step) := do
  if ← dialectIn [.generic] then
    many do
      if ← acceptSymbol "|>" then return some (← step levels) else return none
  else return []

end Grammar
end Sql
end TableReach
