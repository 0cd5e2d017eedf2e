import TableReach.Sql.Grammar.Power
import TableReach.Sql.Grammar.Call

/-!
# Expressions

An expression is an operand followed by infix operators.  An operand that starts
with a word is first read as the special form of that word and, failing that, as
a plain name or call: hardly any word is reserved.
-/

namespace TableReach
namespace Sql
namespace Grammar

/-- A query comes next. -/
def comesQuery : Reader Bool := do
  return ["SELECT", "WITH"].contains (← nextKeyword)

/-- A choice behind its keyword. -/
def choice (levels : Levels) : Reader Expr := do
  let subject ←
    if ← comesWord "WHEN" then pure []
    else do pure [← levels.expression]
  expectWord "WHEN"
  let branch : Reader (List Expr) := do
    let condition ← levels.expression
    expectWord "THEN"
    let result ← levels.expression
    return [condition, result]
  let first ← branch
  let others ← many do
    if ← acceptWord "WHEN" then return some (← branch) else return none
  let otherwise ← afterWord "ELSE" (do return [← levels.expression])
  expectWord "END"
  return .compound (subject ++ first ++ others.flatten ++ otherwise)

/-- A conversion to a type behind its keyword. -/
def conversion (levels : Levels) : Reader Expr := do
  bracketed do
    let subject ← levels.expression
    expectWord "AS"
    let _ ← dataType levels
    if ← acceptWord "FORMAT" then
      let _ ← value
      if ← acceptWords ["AT", "TIME", "ZONE"] then let _ ← value
    return .compound [subject]

/-- A conversion between character sets or to a type, behind its keyword. -/
def recoding (levels : Levels) : Reader Expr :=
  bracketed do
    let subject ← levels.expression
    if ← acceptWord "USING" then
      let _ ← objectName
    else
      expectSymbol ","
      let _ ← dataType levels
      if ← acceptWords ["CHARACTER", "SET"] then let _ ← objectName
    return .compound [subject]

/-- A test whether a query gives rows, behind its keyword. -/
def existence (levels : Levels) : Reader Expr := do
  return .subquery (← bracketed levels.query)

/-- An extraction from a date or time, behind its keyword. -/
def extraction (levels : Levels) : Reader Expr :=
  bracketed do
    let _ ← datePart
    if !(← acceptWord "FROM") then
      require (← dialectIn [.generic])
      expectSymbol ","
    return .compound [← levels.expression]

/-- A rounding to whole numbers or parts of a date, behind its keyword. -/
def rounding (levels : Levels) : Reader Expr :=
  bracketed do
    let subject ← levels.expression
    if ← acceptWord "TO" then
      let _ ← datePart
    else if ← acceptSymbol "," then
      require ((← valueKind) == .number)
    return .compound [subject]

/-- The place of a text in another one, behind its keyword. -/
def position (levels : Levels) : Reader Expr := do
  let found ← attempt do
    bracketed do
      let part ← levels.expressionAbove (← power .between)
      expectWord "IN"
      return Expr.compound [part, ← levels.expression]
  match found with
  | some expression => return expression
  | none => call levels

/-- A part of a text, behind its keyword. -/
def substring (levels : Levels) : Reader Expr :=
  bracketed do
    let subject ← levels.expression
    let part (words : List String) : Reader (List Expr) := do
      if ← acceptSomeWord words then return [← levels.expression]
      if ← acceptSymbol "," then return [← levels.expression]
      return []
    let start ← part ["FROM"]
    let length ← part ["FOR"]
    return .compound (subject :: start ++ length)

/-- A text laid over another one, behind its keyword. -/
def overlay (levels : Levels) : Reader Expr :=
  bracketed do
    let subject ← levels.expression
    expectWord "PLACING"
    let part ← levels.expression
    expectWord "FROM"
    let start ← levels.expression
    let length ← afterWord "FOR" (do return [← levels.expression])
    return .compound ([subject, part, start] ++ length)

/-- A text without the characters at its ends, behind its keyword. -/
def trimming (levels : Levels) : Reader Expr :=
  bracketed do
    let _ ← acceptAnyWord ["BOTH", "LEADING", "TRAILING"]
    let first ← levels.expression
    if ← acceptWord "FROM" then
      let subject ← levels.expression
      return .compound [subject, first]
    else if ← dialectIn [.generic] then
      if ← acceptSymbol "," then
        return .compound (first :: (← levels.expressions))
      else return .compound [first]
    else return .compound [first]

/-- A search for words, behind its keyword. -/
def textSearch : Reader Expr := do
  let _ ← objectNameList
  expectWord "AGAINST"
  bracketed do
    let _ ← value
    if ← acceptWords ["IN", "NATURAL", "LANGUAGE", "MODE"] then
      let _ ← acceptWords ["WITH", "QUERY", "EXPANSION"]
    else if ← acceptWords ["IN", "BOOLEAN", "MODE"] then pure ()
    else let _ ← acceptWords ["WITH", "QUERY", "EXPANSION"]
    return .literal

/-- Items between square brackets, behind the opening one. -/
def arrayItems (levels : Levels) : Reader Expr := do
  let items ← commaSeparatedBefore "]" levels.expression
  expectSymbol "]"
  return .compound items

/-- A record, behind its keyword.  Its fields may be named unless they have types. -/
def record (levels : Levels) : Reader Expr := do
  let (typed, taken) ← recordFields levels (innerType levels)
  require !taken
  let fields ← bracketedList do
    let field ← levels.expression
    if ← acceptWord "AS" then
      require !typed
      let _ ← ident
    return field
  return .compound fields

/-- Pairs of a key and a value between braces, behind the opening one. -/
def keyedValues (levels : Levels) (key : Reader Expr) : Reader Expr := do
  let pairs ← commaSeparatedBefore "\x7d" do
    let found ← key
    expectSymbol ":"
    return [found, ← levels.expression]
  expectSymbol "\x7d"
  return .compound pairs.flatten

/-- A negation, behind its keyword. -/
def negation (levels : Levels) : Reader Expr := do
  if ← acceptWord "EXISTS" then existence levels
  else return .compound [← levels.expressionAbove (← power .negation)]

/-- The special form that starts with `keyword`, which was taken; none if there is no such form. -/
def specialForm (levels : Levels) (keyword : String) : Reader (Option Expr) := do
  let dialect ← theDialect
  match keyword with
  | "TRUE" | "FALSE" | "NULL" => return some .literal
  | "CURRENT_CATALOG" | "CURRENT_USER" | "SESSION_USER" | "USER" =>
      return if dialect == .postgresql || dialect == .generic then some .literal else none
  | "CURRENT_TIMESTAMP" | "CURRENT_TIME" | "CURRENT_DATE" | "LOCALTIME" | "LOCALTIMESTAMP" =>
      if ← acceptSymbol "(" then return some (.compound (← arguments levels).1)
      else return some .literal
  | "CASE" => return some (← choice levels)
  | "CONVERT" => return some (← recoding levels)
  | "TRY_CONVERT" =>
      if dialect == .generic then return some (← recoding levels) else return none
  | "CAST" | "TRY_CAST" | "SAFE_CAST" => return some (← conversion levels)
  | "EXISTS" => return some (← existence levels)
  | "EXTRACT" => return some (← extraction levels)
  | "CEIL" | "FLOOR" => return some (← rounding levels)
  | "POSITION" => if ← comesSymbol "(" then return some (← position levels) else return none
  | "SUBSTR" | "SUBSTRING" => return some (← substring levels)
  | "OVERLAY" => return some (← overlay levels)
  | "TRIM" => return some (← trimming levels)
  | "INTERVAL" => return some (← interval levels)
  | "ARRAY" =>
      if ← acceptSymbol "[" then return some (← arrayItems levels)
      else if ← comesSymbol "(" then return some (.subquery (← bracketed levels.query))
      else return none
  | "NOT" => return some (← negation levels)
  | "MATCH" =>
      if dialect == .generic || dialect == .mysql then return some (← textSearch)
      else return none
  | "STRUCT" =>
      if dialect == .generic then return some (← record levels) else return none
  | "PRIOR" =>
      if ← standsIn .hierarchy then
        return some (.compound [← levels.expressionAbove (← power .sum)])
      else return none
  | "MAP" =>
      let literal ← if dialect == .generic then acceptSymbol "\x7b" else pure false
      if literal then return some (← keyedValues levels levels.expression) else return none
  | "CIRCLE" | "BOX" | "PATH" | "LINE" | "LSEG" | "POINT" | "POLYGON" =>
      if dialect == .postgresql then return some (← value) else return none
  | _ => return none

/-- Words that are special forms only. -/
def strictForms : List String :=
  ["EXISTS", "INTERVAL", "STRUCT", "TRIM"]

/-- A word as a plain name, a call, or the mark of a string; the word was taken. -/
def plainForm (levels : Levels) (text : String) (quote : Option Char) : Reader Expr := do
  if ← comesSymbol "(" then call levels
  else
    match (← peek).map Lexeme.token with
    | some (.singleQuoted _) | some (.doubleQuoted _) | some (.literal .hexadecimal _) =>
        if text.toList.head? == some '_' then
          skip
          return .literal
        else return .name { text := text, quote := quote }
    | _ => return .name { text := text, quote := quote }

/-- An operand that starts with a word, which was taken. -/
def wordOperand
    (levels : Levels)
    (text : String)
    (quote : Option Char)
    (keyword : String) : Reader Expr := do
  match ← attempt (specialForm levels keyword) with
  | some (some form) => return form
  | some none => plainForm levels text quote
  | none =>
      require !(strictForms.contains keyword)
      plainForm levels text quote

/-- A literal that starts with its type. -/
def typedLiteral (levels : Levels) : Reader Expr := do
  match ← dataType levels with
  | .interval => interval levels
  | .custom => unexpected
  | .known => value

/-- A call or a literal of a date or time between braces, behind the opening one. -/
def bracedForm (levels : Levels) : Reader Expr := do
  let lexeme ← next
  if lexeme.keyword == "FN" then
    let _ ← objectName
    call levels
  else
    require (["d", "t", "ts"].any fun word => lexeme.token == .word word none)
    value

/-- Something between braces. -/
def braced (levels : Levels) : Reader Expr := do
  expectSymbol "\x7b"
  match ← attempt (bracedForm levels) with
  | some found =>
      expectSymbol "\x7d"
      return found
  | none =>
      require (← dialectIn [.generic])
      keyedValues levels do
        let _ ← ident
        return .literal

/-- A query or expressions between round brackets, behind the opening one. -/
def grouped (levels : Levels) : Reader Expr := do
  let inside ←
    if ← comesQuery then pure (Expr.subquery (← levels.query))
    else pure (Expr.compound (← inPlace .ordinary levels.expressions))
  expectSymbol ")"
  return inside

/-- Signs before an operand in one dialect. -/
def leadingSigns : List String :=
  ["!!", "|/", "||/", "@", "#", "@-@", "@@", "?-", "?|"]

/-- An operand that starts with a symbol. -/
def symbolOperand (levels : Levels) (symbol : String) : Reader Expr := do
  let postgresql ← dialectIn [.postgresql]
  match symbol with
  | "[" => skip; arrayItems levels
  | "-" | "+" => skip; return .compound [← levels.expressionAbove (← power .product)]
  | "~" => skip; return .compound [← levels.expressionAbove (← power .sum)]
  | "(" => skip; grouped levels
  | "\x7b" => braced levels
  | _ =>
      if postgresql && leadingSigns.contains symbol then
        skip
        return .compound [← levels.expressionAbove (← power .sum)]
      else value

/-- An operand without what may follow it. -/
def simpleOperand (levels : Levels) : Reader Expr := do
  match ← peek with
  | some lexeme =>
      match lexeme.token with
      | .word text quote =>
          skip
          wordOperand levels text quote lexeme.keyword
      | .symbol symbol => symbolOperand levels symbol
      | _ => value
  | none => unexpected

/-- A collation behind an operand; in the rules of a column it is a rule. -/
def collation : Reader Unit := do
  if !(← standsIn .columnRule) then
    if ← acceptWord "COLLATE" then let _ ← objectName

/-- An operand: a literal with its type, or any other, with a collation behind it. -/
def operand (levels : Levels) : Reader Expr := do
  match ← attempt (typedLiteral levels) with
  | some found => return found
  | none =>
      let found ← simpleOperand levels
      if ← standsIn .columnRule then return found
      if ← acceptWord "COLLATE" then
        let _ ← objectName
        return .compound [found]
      else return found

/-- What is taken between square brackets behind an operand, which opened. -/
def subscript (levels : Levels) : Reader (List Expr) := do
  let lower ←
    if ← comesSymbol ":" then pure []
    else do pure [← levels.expression]
  let upper ←
    if ← acceptSymbol ":" then
      if ← comesSymbol "]" then pure []
      else do
        let bound ← levels.expression
        let stride ←
          if ← acceptSymbol ":" then
            if ← comesSymbol "]" then pure [] else do pure [← levels.expression]
          else pure []
        pure (bound :: stride)
    else pure []
  expectSymbol "]"
  return lower ++ upper

/-- The expression is a plain name. -/
def isName : Expr → Bool
  | .name _ => true
  | _ => false

/-- At most `limit` steps from a value to a part of it; `named` says that the value and the steps
before are names.  A star behind the period ends the steps; it is left for others but in one
dialect, where all before it are names. -/
def accesses (levels : Levels) : Nat → Bool → Reader (List Expr)
  | 0, _ => return []
  | limit + 1, named => do
      if ← comesSymbol "." then
        if ← comesSymbolAt 1 "*" then
          if ← dialectIn [.postgresql] then
            require named
            expectSymbol "."
            expectSymbol "*"
            return [.literal]
          else return []
        else
          skip
          if ← comesSingleQuoted then
            skip
            return .literal :: (← accesses levels limit named)
          else
            let part ← levels.expressionAbove (← power .period)
            return part :: (← accesses levels limit (named && isName part))
      else if ← acceptSymbol "[" then
        let bounds ← subscript levels
        return .compound bounds :: (← accesses levels limit false)
      else return []

/-- Steps from a value to a part of it; `named` says that the value is a name. -/
def accessSteps (levels : Levels) (named : Bool) : Reader (List Expr) := do
  accesses levels (← remaining) named

/-- An operand with the steps to a part of it. -/
def operandWithAccess (levels : Levels) : Reader Expr := do
  let found ← operand levels
  let steps ← accessSteps levels (isName found)
  return if steps.isEmpty then found else .compound (found :: steps)

/-- The operators that stand between two operands. -/
def isBinary (dialect : Dialect) (symbol : String) : Bool :=
  let postgresql := dialect == .postgresql
  comparisons.contains symbol || specials.contains symbol ||
    ["+", "-", "*", "/", "%", "||", "|", "^", "&"].contains symbol ||
    (symbol == "//" && dialect == .generic) ||
    (["<<", ">>", "^@", "&&"].contains symbol && (dialect == .generic || postgresql)) ||
    (postgresql && (symbol == "#" || geometric.contains symbol))

/-- The operators that may compare with all or any rows. -/
def isQuantifiable (symbol : String) : Bool :=
  comparisons.contains symbol && symbol != ":=" && symbol != "<=>"

/-- A query in round brackets comes next. -/
def comesBracketedQuery : Reader Bool := do
  return ["SELECT", "WITH"].contains (← keywordAt 1) && (← comesSymbol "(")

/-- The right operand of a binary operator. -/
def rightOperand
    (levels : Levels)
    (left : Expr)
    (strength : Nat)
    (quantifiable : Bool) : Reader Expr := do
  if ← acceptSomeWord ["ANY", "ALL", "SOME"] then
    let right ←
      if ← comesBracketedQuery then levels.expressionAbove strength
      else bracketed (levels.expressionAbove strength)
    require quantifiable
    return .compound [left, right]
  else return .compound [left, ← levels.expressionAbove strength]

/-- A membership test behind its keyword. -/
def membership (levels : Levels) (left : Expr) : Reader Expr := do
  if ← acceptWord "UNNEST" then
    return .compound [left, ← bracketed levels.expression]
  bracketed do
    match ← attempt levels.query with
    | some query => return .compound [left, .subquery query]
    | none =>
        if (← dialectIn [.sqlite]) then
          if ← comesSymbol ")" then return left
        return .compound (left :: (← levels.expressions))

/-- The escape character of a pattern. -/
def escapeClause : Reader Unit := do
  if ← acceptWord "ESCAPE" then let _ ← value

/-- A pattern behind its keyword. -/
def pattern (levels : Levels) (left : Expr) : Reader Expr := do
  let _ ← acceptWord "ANY"
  let right ← levels.expressionAbove (← power .like)
  escapeClause
  return .compound [left, right]

/-- A test that may be negated: membership, range or pattern. -/
def negatableTest (levels : Levels) (left : Expr) : Reader Expr := do
  let negated ← acceptWord "NOT"
  if ← acceptSomeWord ["REGEXP", "RLIKE"] then
    if !(← standsIn .columnRule) then let _ ← acceptWord "NULL"
    return .compound [left, ← levels.expressionAbove (← power .like)]
  let null ← if ← standsIn .columnRule then pure false else acceptWord "NULL"
  if negated && null then return .compound [left]
  if ← acceptWord "IN" then membership levels left
  else if ← acceptWord "BETWEEN" then
    let low ← levels.expressionAbove (← power .between)
    expectWord "AND"
    let high ← levels.expressionAbove (← power .between)
    return .compound [left, low, high]
  else if ← acceptSomeWord ["LIKE", "ILIKE"] then pattern levels left
  else if ← acceptWords ["SIMILAR", "TO"] then
    let right ← levels.expressionAbove (← power .like)
    escapeClause
    return .compound [left, right]
  else unexpected

/-- A test of a value's nature, behind its keyword. -/
def natureTest (levels : Levels) (left : Expr) : Reader Expr := do
  let _ ← acceptWord "NOT"
  if ← acceptSomeWord ["NULL", "TRUE", "FALSE", "UNKNOWN"] then return left
  else if ← acceptWords ["DISTINCT", "FROM"] then
    return .compound [left, ← levels.expression]
  else
    let _ ← acceptAnyWord ["NFC", "NFD", "NFKC", "NFKD"]
    expectWord "NORMALIZED"
    return left

/-- An operator that is written with its keyword, which comes next, and its right operand. -/
def operatorInfix (levels : Levels) (left : Expr) (strength : Nat) : Reader Expr := do
  require (← dialectIn [.generic, .postgresql])
  skip
  bracketed operatorName
  rightOperand levels left strength false

/-- An operator that is a word, with its right operand. -/
def wordInfix
    (levels : Levels)
    (left : Expr)
    (strength : Nat)
    (keyword : String) : Reader Expr := do
  let dialect ← theDialect
  match keyword with
  | "AND" | "OR" | "XOR" | "OVERLAPS" => skip; rightOperand levels left strength false
  | "OPERATOR" => operatorInfix levels left strength
  | "IS" => skip; natureTest levels left
  | "AT" =>
      expectWords ["AT", "TIME", "ZONE"]
      return .compound [left, ← levels.expressionAbove strength]
  | "REGEXP" | "MATCH" =>
      if dialect == .sqlite then
        skip
        return .compound [left, ← levels.expression]
      else if keyword == "REGEXP" then negatableTest levels left
      else unexpected
  | "NOT" | "IN" | "BETWEEN" | "LIKE" | "ILIKE" | "SIMILAR" | "RLIKE" =>
      negatableTest levels left
  | "NOTNULL" => skip; return left
  | "DIV" =>
      require (dialect == .mysql)
      skip
      return .compound [left, ← levels.expression]
  | "MEMBER" =>
      expectWords ["MEMBER", "OF"]
      return .compound [left, ← bracketed levels.expression]
  | _ => unexpected

/-- An operator of the given power that comes next, with its right operand. -/
def infixPart (levels : Levels) (left : Expr) (strength : Nat) : Reader Expr := do
  match ← peek with
  | some lexeme =>
      match lexeme.token with
      | .symbol "::" =>
          skip
          let _ ← dataType levels
          return .compound [left]
      | .symbol "!" =>
          require (← dialectIn [.postgresql])
          skip
          return .compound [left]
      | .symbol symbol =>
          require (isBinary (← theDialect) symbol)
          skip
          rightOperand levels left strength (isQuantifiable symbol)
      | .operator _ =>
          skip
          rightOperand levels left strength false
      | _ => wordInfix levels left strength lexeme.keyword
  | none => unexpected

/-- Take infix operators of more than the given power, at most `limit` of them. -/
def infixes (levels : Levels) (strength : Nat) : Nat → Expr → Reader Expr
  | 0, left => return left
  | limit + 1, left => do
      let ahead ← nextPower
      if ahead ≤ strength then return left
      if ← comesSymbol "." then return left
      infixes levels strength limit (← infixPart levels left ahead)

/-- An expression of operators that bind tighter than `strength`. -/
def expressionAbove (levels : Levels) (strength : Nat) : Reader Expr := do
  let left ← operandWithAccess levels
  collation
  infixes levels strength (← remaining) left

end Grammar
end Sql
end TableReach
