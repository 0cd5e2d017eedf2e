import TableReach.Sql.Grammar.Reader

/-!
# Binding powers

Which operators bind tighter than others.  An operator is taken into an
expression when its power is above the power of the operator to its left.
-/

namespace TableReach
namespace Sql
namespace Grammar

/-- Groups of operators of one binding power. -/
inductive Binding where
  | period
  | cast
  | timeZone
  | product
  | sum
  | exclusiveOr
  | bitAnd
  | caret
  | bitOr
  | between
  | comparison
  | like
  | isTest
  | special
  | negation
  | conjunction
  | disjunction
deriving DecidableEq

/-- The binding power of a group in a dialect. -/
def Binding.power : Binding → Dialect → Nat
  | .period, .postgresql => 200
  | .cast, .postgresql => 140
  | .timeZone, .postgresql => 110
  | .product, .postgresql => 90
  | .sum, .postgresql => 80
  | .exclusiveOr, .postgresql => 75
  | .bitAnd, .postgresql => 70
  | .caret, .postgresql => 100
  | .bitOr, .postgresql => 70
  | .between, .postgresql => 60
  | .comparison, .postgresql => 50
  | .like, .postgresql => 60
  | .isTest, .postgresql => 40
  | .special, .postgresql => 70
  | .negation, .postgresql => 30
  | .conjunction, .postgresql => 20
  | .disjunction, .postgresql => 10
  | .period, _ => 100
  | .cast, _ => 50
  | .timeZone, _ => 41
  | .product, _ => 40
  | .sum, _ => 30
  | .exclusiveOr, _ => 24
  | .bitAnd, _ => 23
  | .caret, _ => 22
  | .bitOr, _ => 21
  | .between, _ => 20
  | .comparison, _ => 20
  | .like, _ => 19
  | .isTest, _ => 17
  | .special, _ => 16
  | .negation, _ => 15
  | .conjunction, _ => 10
  | .disjunction, _ => 5

/-- Operators that compare. -/
def comparisons : List String :=
  [":=", "=", "<", "<=", "<>", "!=", ">", ">=", "==", "~", "~*", "!~", "!~*", "~~", "~~*", "!~~",
    "!~~*", "<=>"]

/-- Operators on structured values. -/
def specials : List String :=
  ["->", "->>", "#>", "#>>", "@>", "<@", "#-", "@?", "@@", "?", "?&", "?|"]

/-- Operators on shapes in the plane. -/
def geometric : List String :=
  ["@", "##", "&<", "&>", "&<|", "|&>", "<->", "<^", ">^", "<|", "<<|", "|>>", "~=", "?-", "?#",
    "?||", "?-|"]

/-- The group of an operator symbol. -/
def bindingOfSymbol (dialect : Dialect) (symbol : String) : Option Binding :=
  let postgresql := dialect == .postgresql
  if symbol == "." then some .period
  else if comparisons.contains symbol then some .comparison
  else if symbol == "|" || geometric.contains symbol then some .bitOr
  else if symbol == "^" then some .caret
  else if ["#", ">>", "<<"].contains symbol then
    some (if postgresql then .special else .caret)
  else if symbol == "&" then some .bitAnd
  else if symbol == "+" || symbol == "-" then some .sum
  else if ["*", "/", "//", "%"].contains symbol then some .product
  else if symbol == "||" then some (if postgresql then .special else .product)
  else if symbol == "::" then some .cast
  else if symbol == "&&" then some (if postgresql then .special else .bitOr)
  else if ["!", "^@"].contains symbol then some (if postgresql then .special else .cast)
  else if symbol == "[" then some .cast
  else if specials.contains symbol then some .special
  else none

/-- The group of a keyword, given the two keywords behind it.  In the rules of a column a test for
null values is a rule. -/
def bindingOfKeyword
    (dialect : Dialect)
    (place : Place)
    (keyword second third : String) : Option Binding :=
  if keyword == "OR" then some .disjunction
  else if keyword == "AND" then some .conjunction
  else if keyword == "XOR" then some .exclusiveOr
  else if keyword == "AT" then
    if second == "TIME" && third == "ZONE" then some .timeZone else none
  else if keyword == "NOT" then
    if second == "IN" || second == "BETWEEN" then some .between
    else if ["LIKE", "ILIKE", "RLIKE", "REGEXP", "MATCH", "SIMILAR", "MEMBER"].contains second then
      some .like
    else if second == "NULL" && place != .columnRule then some .isTest
    else none
  else if keyword == "NOTNULL" then
    if (dialect == .postgresql || dialect == .sqlite) && place != .columnRule then some .isTest
    else none
  else if keyword == "IS" then some .isTest
  else if ["IN", "BETWEEN", "OVERLAPS", "OPERATOR"].contains keyword then some .between
  else if ["LIKE", "ILIKE", "RLIKE", "REGEXP", "MATCH", "SIMILAR", "MEMBER"].contains keyword then
    some .like
  else if keyword == "DIV" then some .product
  else if keyword == "COLLATE" && dialect == .postgresql && place != .columnRule then
    some .timeZone
  else none

/-- The power of a group in the dialect of the statement. -/
def power (binding : Binding) : Reader Nat := do
  return binding.power (← theDialect)

/-- The group of the keyword that comes next. -/
def keywordBinding : Reader (Option Binding) := do
  return bindingOfKeyword (← theDialect) (← read).place (← nextKeyword) (← keywordAt 1)
    (← keywordAt 2)

/-- The group of the operator that comes next. -/
def nextBinding : Reader (Option Binding) := do
  match (← peek).map Lexeme.token with
  | some (.symbol symbol) => return bindingOfSymbol (← theDialect) symbol
  | some (.operator _) => return some Binding.special
  | some (.word _ none) => keywordBinding
  | _ => return none

/-- The power of the operator that comes next, zero if none does. -/
def nextPower : Reader Nat := do
  let dialect ← theDialect
  return ((← nextBinding).map fun found => found.power dialect).getD 0

end Grammar
end Sql
end TableReach
