import TableReach.Sql.Grammar.DataType

/-!
# Function calls

The arguments of a call with the clauses that may stand among and behind them:
order, separator, filter and window.
-/

namespace TableReach
namespace Sql
namespace Grammar

/-- Units of time behind an interval. -/
def intervalUnits : List String :=
  ["YEAR", "YEARS", "MONTH", "MONTHS", "WEEK", "WEEKS", "DAY", "DAYS", "HOUR", "HOURS", "MINUTE",
    "MINUTES", "SECOND", "SECONDS", "CENTURY", "DECADE", "DOW", "DOY", "EPOCH", "ISODOW",
    "ISOYEAR", "JULIAN", "MICROSECOND", "MICROSECONDS", "MILLENIUM", "MILLENNIUM", "MILLISECOND",
    "MILLISECONDS", "NANOSECOND", "NANOSECONDS", "QUARTER", "TIMEZONE", "TIMEZONE_HOUR",
    "TIMEZONE_MINUTE"]

/-- Parts of a date or time that can be extracted. -/
def dateParts : List String :=
  intervalUnits ++ ["DAYOFWEEK", "DAYOFYEAR", "DATE", "DATETIME", "ISOWEEK", "TIME",
    "TIMEZONE_ABBR", "TIMEZONE_REGION"]

/-- A part of a date or time. -/
def datePart : Reader String := do
  let lexeme ← next
  let free ← dialectIn [.generic, .postgresql]
  if lexeme.keyword == "WEEK" then
    if ← dialectIn [.generic] then
      if ← acceptSymbol "(" then
        let _ ← ident
        expectSymbol ")"
    return lexeme.keyword
  else if dateParts.contains lexeme.keyword then return lexeme.keyword
  else
    match lexeme.token with
    | .word _ _ => require free; return ""
    | .singleQuoted _ => require free; return ""
    | _ => unexpected

/-- An interval behind its keyword. -/
def interval (levels : Levels) : Reader Expr := do
  let unitNeeded ← dialectIn [.mysql]
  let amount ← if unitNeeded then levels.expression else levels.operand
  if intervalUnits.contains (← nextKeyword) then
    let unit ← datePart
    if unit == "SECOND" then optionalPrecisionAndScale
    else
      optionalPrecision
      if ← acceptWord "TO" then
        if (← datePart) == "SECOND" then optionalPrecision
  else
    require !unitNeeded
    optionalPrecision
    if ← acceptWord "TO" then
      if (← datePart) == "SECOND" then optionalPrecision
  return .compound [amount]

/-- The direction of a key of an order, and where it puts nulls. -/
def orderDirection : Reader Unit := do
  let _ ← acceptAnyWord ["ASC", "DESC"]
  if ← acceptWords ["NULLS", "FIRST"] then pure ()
  else let _ ← acceptWords ["NULLS", "LAST"]

/-- The direction of a key of an order; in one dialect missing rows can be filled in. -/
def orderOptions (levels : Levels) : Reader (List Expr) := do
  orderDirection
  if ← dialectIn [.generic] then
    afterWords ["WITH", "FILL"] do
      let bound (word : String) : Reader (List Expr) :=
        afterWord word (do return [← levels.expression])
      return (← bound "FROM") ++ (← bound "TO") ++ (← bound "STEP")
  else return []

/-- One key of an order. -/
def orderKey (levels : Levels) : Reader Expr := do
  let key ← levels.expression
  return .compound (key :: (← orderOptions levels))

/-- The keys of an order. -/
def orderKeys (levels : Levels) : Reader (List Expr) := commaSeparated (orderKey levels)

/-- A part of a dotted name; tells whether it is a star. -/
def starOrName : Reader Bool := do
  match (← next).token with
  | .word _ _ | .singleQuoted _ | .placeholder _ => return false
  | .symbol "*" => return true
  | _ => unexpected

/-- A dotted name that ends in a star, behind its first part. -/
def qualifiedStar : Reader (Option Unit) := do
  let parts ← many do
    if ← acceptSymbol "." then return some (← starOrName) else return none
  return if parts.getLast? == some true then some () else none

/-- A star, a dotted name that ends in a star, or an expression. -/
def wildcardOrExpression (levels : Levels) : Reader (Expr × Bool) := do
  match (← peek).map Lexeme.token with
  | some (.symbol "*") => skip; return (.literal, true)
  | some (.word _ _) | some (.singleQuoted _) =>
      if ← comesSymbolAt 1 "." then
        match ← orBack (do skip; qualifiedStar) with
        | some () => return (.literal, true)
        | none => return (← levels.expression, false)
      else return (← levels.expression, false)
  | _ => return (← levels.expression, false)

/-- The mark between the name and the value of a named argument. -/
def argumentMark : Reader Unit := do
  if ← acceptWord "VALUE" then return ()
  if ← acceptSymbol "=>" then return ()
  match ← theDialect with
  | .generic => expectSymbol ":="
  | .postgresql => expectSymbol ":"
  | _ => unexpected

/-- One argument of a call.  The name of a named one is an expression in one dialect. -/
def argument (levels : Levels) : Reader Expr := do
  let named ← attempt do
    let name ←
      if ← dialectIn [.postgresql] then levels.expression
      else
        let _ ← ident
        pure Expr.literal
    argumentMark
    return Expr.compound [name, (← wildcardOrExpression levels).1]
  match named with
  | some found => return found
  | none => return (← wildcardOrExpression levels).1

/-- The clause that says whether nulls are skipped. -/
def nullTreatment : Reader Bool := do
  if ← acceptSomeWord ["RESPECT", "IGNORE"] then
    expectWord "NULLS"
    return true
  else return false

/-- The clauses of functions that build structured values. -/
def structuredClauses (levels : Levels) : Reader Unit := do
  if ← acceptWords ["ABSENT", "ON", "NULL"] then pure ()
  else
    let _ ← acceptWords ["NULL", "ON", "NULL"]
  if ← acceptWord "RETURNING" then let _ ← dataType levels

/-- The text that is put in the place of what is cut off from a result. -/
def overflowFiller (levels : Levels) : Reader (List Expr) := do
  match (← peek).map Lexeme.token with
  | some (.singleQuoted _) => return [← levels.expression]
  | some (.literal kind _) =>
      require ([.escaped, .unicode, .national, .hexadecimal].contains kind)
      return [← levels.expression]
  | _ => unexpected

/-- What happens when the result of an aggregate grows too long. -/
def overflowClause (levels : Levels) : Reader (List Expr) :=
  afterWords ["ON", "OVERFLOW"] do
    if ← acceptWord "ERROR" then return []
    expectWord "TRUNCATE"
    let filler ←
      if ["WITH", "WITHOUT"].contains (← nextKeyword) then pure [] else overflowFiller levels
    let _ ← expectAnyWord ["WITH", "WITHOUT"]
    expectWord "COUNT"
    return filler

/-- The arguments of a call behind the opening bracket, and whether nulls were treated. -/
def arguments (levels : Levels) : Reader (List Expr × Bool) := do
  structuredClauses levels
  if ← acceptSymbol ")" then return ([], false)
  let all ← acceptWord "ALL"
  let distinct ← acceptWord "DISTINCT"
  require !(all && distinct)
  let found ← commaSeparated (argument levels)
  let treated ←
    if ← dialectIn [.generic] then nullTreatment else pure false
  let order ← afterWords ["ORDER", "BY"] (orderKeys levels)
  let limit ← afterWord "LIMIT" (do return [← levels.expression])
  let bound ←
    if ← dialectIn [.generic] then
      afterWord "HAVING" do
        let _ ← expectAnyWord ["MIN", "MAX"]
        return [← levels.expression]
    else pure []
  if ← dialectIn [.generic, .mysql] then
    if ← acceptWord "SEPARATOR" then let _ ← value
  let filler ← overflowClause levels
  structuredClauses levels
  expectSymbol ")"
  return (found ++ order ++ limit ++ bound ++ filler, treated)

/-- One bound of a window frame. -/
def frameBound (levels : Levels) : Reader (List Expr) := do
  if ← acceptWords ["CURRENT", "ROW"] then return []
  let rows ←
    if ← acceptWord "UNBOUNDED" then pure []
    else if ← comesSingleQuoted then do pure [← interval levels]
    else do pure [← levels.expression]
  let _ ← expectAnyWord ["PRECEDING", "FOLLOWING"]
  return rows

/-- The name of a window that another one is made from, if one comes next. -/
def windowName : Reader Unit := do
  match ← peek with
  | some lexeme => if lexeme.token.isWord && !isKeyword lexeme.keyword then skip
  | none => pure ()

/-- A window specification behind its opening bracket. -/
def windowSpecification (levels : Levels) : Reader (List Expr) := do
  windowName
  let partitions ← afterWords ["PARTITION", "BY"] levels.expressions
  let order ← afterWords ["ORDER", "BY"] (orderKeys levels)
  if ← acceptSymbol ")" then return partitions ++ order
  let _ ← expectAnyWord ["ROWS", "RANGE", "GROUPS"]
  let frame ←
    if ← acceptWord "BETWEEN" then
      let low ← frameBound levels
      expectWord "AND"
      let high ← frameBound levels
      pure (low ++ high)
    else frameBound levels
  expectSymbol ")"
  return partitions ++ order ++ frame

/-- The window of a call. -/
def window (levels : Levels) : Reader (List Expr) :=
  afterWord "OVER" do
    if ← acceptSymbol "(" then windowSpecification levels
    else
      let _ ← ident
      return []

/-- A call behind the name of the function. -/
def call (levels : Levels) : Reader Expr := do
  expectSymbol "("
  let (first, treatedFirst) ← arguments levels
  let (found, treated) ←
    if ← dialectIn [.generic] then
      if ← acceptSymbol "(" then
        let (second, treatedSecond) ← arguments levels
        pure (first ++ second, treatedSecond)
      else pure (first, treatedFirst)
    else pure (first, treatedFirst)
  let group ← afterWords ["WITHIN", "GROUP"] do
    bracketed do
      expectWords ["ORDER", "BY"]
      orderKeys levels
  let filter ←
    if ← dialectIn [.generic, .postgresql, .sqlite] then
      afterWord "FILTER" do
        if ← acceptSymbol "(" then
          afterWord "WHERE" do
            let condition ← levels.expression
            expectSymbol ")"
            return [condition]
        else return []
    else pure []
  if !treated then let _ ← nullTreatment
  let frame ← window levels
  return .compound (found ++ filter ++ frame ++ group)

end Grammar
end Sql
end TableReach
