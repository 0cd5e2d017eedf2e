import TableReach.Sql.Token
import TableReach.Sql.Tree

/-!
# Readers

A reader takes lexemes from the front of a list and gives a value, or fails.
The grammar of the query language is written with the readers of this module:
taking a word or a symbol if it comes next, requiring it, trying a reader and
going back, and reading items with commas between them.

Nesting is bounded: `Levels` holds the readers that the grammar calls for a
nested part, and the readers of the lowest level fail with `Failure.tooDeep`.
-/

namespace TableReach
namespace Sql
namespace Grammar

/-- Why a statement cannot be read. -/
inductive Failure where
  /-- A lexeme that does not fit here, or an early end. -/
  | unexpected
  /-- The parts are nested too deeply. -/
  | tooDeep
deriving DecidableEq

/-- Where in a statement a part stands, as far as its grammar depends on it. -/
inductive Place where
  /-- In no place of the others. -/
  | ordinary
  /-- In the relations between the rows of a hierarchy. -/
  | hierarchy
  /-- In the rules of a column. -/
  | columnRule
deriving DecidableEq

/-- What the grammar depends on besides the lexemes. -/
structure Context where
  /-- The dialect of the statement. -/
  dialect : Dialect
  /-- The place of the part that is read. -/
  place : Place

/-- A reader of lexemes. -/
abbrev Reader := ReaderT Context (StateT (List Lexeme) (Except Failure))

/-- Fail. -/
def unexpected : Reader α := throw Failure.unexpected

/-- Fail unless a condition holds. -/
def require (condition : Bool) : Reader Unit :=
  if condition then pure () else unexpected

/-- The dialect of the statement. -/
def theDialect : Reader Dialect := do
  return (← read).dialect

/-- The dialect is one of these. -/
def dialectIn (dialects : List Dialect) : Reader Bool := do
  return dialects.contains (← theDialect)

/-- The part that is read stands in this place. -/
def standsIn (place : Place) : Reader Bool := do
  return (← read).place == place

/-- Read a part that stands in this place. -/
def inPlace (place : Place) (reader : Reader α) : Reader α := fun context =>
  reader { context with place := place }

/-- How many lexemes are left. -/
def remaining : Reader Nat := do
  return (← get).length

/-- The lexeme `index` places ahead. -/
def peekAt (index : Nat) : Reader (Option Lexeme) := do
  return (← get)[index]?

/-- The next lexeme. -/
def peek : Reader (Option Lexeme) := peekAt 0

/-- Drop the next lexeme. -/
def skip : Reader Unit :=
  modify (List.drop 1)

/-- Take the next lexeme. -/
def next : Reader Lexeme := do
  match ← get with
  | [] => unexpected
  | lexeme :: rest => set rest; return lexeme

/-- The keyword that comes next, empty if none does. -/
def nextKeyword : Reader String := do
  return ((← peek).map Lexeme.keyword).getD ""

/-- The keyword `index` places ahead, empty if there is none. -/
def keywordAt (index : Nat) : Reader String := do
  return ((← peekAt index).map Lexeme.keyword).getD ""

/-- The keyword `word` comes next. -/
def comesWord (word : String) : Reader Bool := do
  return (← peek).any fun lexeme => lexeme.spells word

/-- A word comes `index` places ahead. -/
def isWordAt (index : Nat) : Reader Bool := do
  return (← peekAt index).any fun lexeme => lexeme.token.isWord

/-- The symbol `text` comes `index` places ahead. -/
def comesSymbolAt (index : Nat) (text : String) : Reader Bool := do
  return (← peekAt index).map Lexeme.token == some (.symbol text)

/-- The symbol `text` comes next. -/
def comesSymbol (text : String) : Reader Bool := comesSymbolAt 0 text

/-- Take the keyword `word` if it comes next. -/
def acceptWord (word : String) : Reader Bool := do
  if ← comesWord word then skip; return true
  else return false

/-- The lexemes behind the keywords `words`, if they start with these. -/
def behindWords? : List String → List Lexeme → Option (List Lexeme)
  | [], lexemes => some lexemes
  | _ :: _, [] => none
  | word :: words, lexeme :: lexemes =>
      if lexeme.spells word then behindWords? words lexemes else none

/-- Take the keywords `words` if they come next, all of them or none. -/
def acceptWords (words : List String) : Reader Bool := do
  match behindWords? words (← get) with
  | some rest => set rest; return true
  | none => return false

/-- Take the first of these sequences of keywords that comes next. -/
def acceptAnyWords : List (List String) → Reader Bool
  | [] => return false
  | words :: others => do
      if ← acceptWords words then return true else acceptAnyWords others

/-- Take the next word if it is one of these keywords. -/
def acceptAnyWord (words : List String) : Reader (Option String) := do
  match (← peek).bind fun lexeme => words.find? lexeme.spells with
  | some word => skip; return some word
  | none => return none

/-- Take one of these keywords if it comes next, and tell whether one did. -/
def acceptSomeWord (words : List String) : Reader Bool := do
  return (← acceptAnyWord words).isSome

/-- Take the symbol `text` if it comes next. -/
def acceptSymbol (text : String) : Reader Bool := do
  if ← comesSymbol text then skip; return true
  else return false

/-- Take the keyword `word`, which has to come next. -/
def expectWord (word : String) : Reader Unit := do
  require (← acceptWord word)

/-- Take the keywords `words`, which have to come next. -/
def expectWords (words : List String) : Reader Unit := do
  require (← acceptWords words)

/-- Take one of these keywords, which has to come next. -/
def expectAnyWord (words : List String) : Reader String := do
  match ← acceptAnyWord words with
  | some word => return word
  | none => unexpected

/-- Take the symbol `text`, which has to come next. -/
def expectSymbol (text : String) : Reader Unit := do
  require (← acceptSymbol text)

/-- Try a reader.  If it fails nothing is taken; nesting that is too deep fails for good. -/
def attempt (reader : Reader α) : Reader (Option α) := fun context lexemes =>
  match reader context lexemes with
  | .ok (value, rest) => .ok (some value, rest)
  | .error .unexpected => .ok (none, lexemes)
  | .error .tooDeep => .error .tooDeep

/-- Go back to where a reader started if it gives nothing. -/
def orBack (reader : Reader (Option α)) : Reader (Option α) := fun context lexemes =>
  match reader context lexemes with
  | .ok (none, _) => .ok (none, lexemes)
  | result => result

/-- The reader's value if `condition` is true. -/
def when? (condition : Bool) (reader : Reader α) : Reader (Option α) := do
  if condition then return some (← reader) else return none

/-- The reader's values if the keyword `word` comes next, else none. -/
def afterWord (word : String) (reader : Reader (List α)) : Reader (List α) := do
  if ← acceptWord word then reader else return []

/-- The reader's values if the keywords `words` come next, else none. -/
def afterWords (words : List String) (reader : Reader (List α)) : Reader (List α) := do
  if ← acceptWords words then reader else return []

/-- Repeat a reader until it gives nothing, at most `limit` times. -/
def repeatSome (reader : Reader (Option α)) : Nat → Reader (List α)
  | 0 => return []
  | limit + 1 => do
      match ← reader with
      | none => return []
      | some value => return value :: (← repeatSome reader limit)

/-- Repeat a reader that takes at least one lexeme until it gives nothing. -/
def many (reader : Reader (Option α)) : Reader (List α) := do
  repeatSome reader ((← remaining) + 1)

/-- One item or more with commas between them. -/
def commaSeparated (item : Reader α) : Reader (List α) := do
  let first ← item
  let others ← many do
    if ← acceptSymbol "," then return some (← item) else return none
  return first :: others

/-- A reader's value between round brackets. -/
def bracketed (reader : Reader α) : Reader α := do
  expectSymbol "("
  let value ← reader
  expectSymbol ")"
  return value

/-- One item or more with commas between them, between round brackets. -/
def bracketedList (item : Reader α) : Reader (List α) :=
  bracketed (commaSeparated item)

/-- Items with commas between them, possibly none, before the symbol `close`. -/
def commaSeparatedBefore (close : String) (item : Reader α) : Reader (List α) := do
  if ← comesSymbol close then return [] else commaSeparated item

/-- Items with commas between them between round brackets, possibly none. -/
def bracketedItems (item : Reader α) : Reader (List α) :=
  bracketed (commaSeparatedBefore ")" item)

/-- The readers that are called for nested parts. -/
structure Levels where
  /-- An expression of operators that bind tighter than a given power. -/
  expressionAbove : Nat → Reader Expr
  /-- An expression without infix operators. -/
  operand : Reader Expr
  /-- The definition of a column. -/
  column : Reader Unit
  /-- A query. -/
  query : Reader Query
  /-- A source with its joins. -/
  item : Reader TableItem
  /-- A statement. -/
  statement : Reader Statement

namespace Levels

/-- The level below which nothing can be nested. -/
def ground : Levels where
  expressionAbove _ := throw Failure.tooDeep
  operand := throw Failure.tooDeep
  column := throw Failure.tooDeep
  query := throw Failure.tooDeep
  item := throw Failure.tooDeep
  statement := throw Failure.tooDeep

/-- An expression. -/
def expression (levels : Levels) : Reader Expr := levels.expressionAbove 0

/-- Expressions with commas between them. -/
def expressions (levels : Levels) : Reader (List Expr) := commaSeparated levels.expression

end Levels

end Grammar
end Sql
end TableReach
