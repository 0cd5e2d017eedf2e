import TableReach.Text.Search
import TableReach.Sql.TableName
import TableReach.Classification.Basic

/-!
# Keyword search

Where a text cannot be read as a statement, its tables are found by keywords: the
name that stands behind `FROM`, `INSERT INTO`, `UPDATE` and so on.
-/

namespace TableReach
namespace Keyword

open Text

/-- A keyword, or two of them, with a table name behind. -/
inductive Clause where
  | fromTable
  | joinTable
  | insertInto
  | updateTable
  | deleteFrom
deriving DecidableEq

/-- The words of a clause. -/
def Clause.words : Clause → List String
  | fromTable => ["FROM"]
  | joinTable => ["JOIN"]
  | insertInto => ["INSERT", "INTO"]
  | updateTable => ["UPDATE"]
  | deleteFrom => ["DELETE", "FROM"]

/-- The text behind words with blanks behind each. -/
def afterWords? : List String → List Char → Option (List Char)
  | [], text => some text
  | word :: others, text => do
      let rest ← afterKeyword? word.toList text
      let rest ← afterBlanks? rest
      afterWords? others rest

/-- A quote that a name can stand between. -/
def isNameQuote (character : Char) : Bool :=
  character == '\x60' || character == '"' || character == '\x27'

/-- The text behind one quote, if a quote stands here. -/
def skipQuote : List Char → List Char
  | [] => []
  | character :: rest => if isNameQuote character then rest else character :: rest

/-- A name of word characters, with a quote allowed on each side: the name as written, and the
text behind it. -/
def name? (text : List Char) : Option (List Char × List Char) := do
  let inside := skipQuote text
  let _ ← inside.head?.filter isWord
  let rest := skipQuote (inside.dropWhile isWord)
  some (consumed text rest, rest)

/-- A clause recognizes its words and the name behind them. -/
def Clause.recognize (clause : Clause) : Recognizer (List Char) := fun before text => do
  let rest ← if startsWord before then afterWords? clause.words text else none
  name? rest

/-- The tables named by a clause, in order. -/
def Clause.names (clause : Clause) (text : List Char) : List String :=
  (findAll clause.recognize text).map fun name => Sql.bareName (String.ofList name)

/-- The tables named by clauses, clause by clause, each once. -/
def tables (clauses : List Clause) (text : List Char) : List String :=
  ((clauses.flatMap fun clause => clause.names text).filter fun name => !name.isEmpty).eraseDups

/-- The tables that a query reads. -/
def selectTables (text : List Char) : List String :=
  tables [.fromTable, .joinTable] text

/-- The operation whose keyword a text holds; writing goes before reading. -/
def operation (text : List Char) : Operation :=
  let raised := upper text
  if contains raised "INSERT ".toList then .insert
  else if contains raised "UPDATE ".toList then .update
  else if contains raised "DELETE ".toList then .delete
  else .select

/-- The clause that names the tables an operation writes. -/
def targetClause? : Operation → Option Clause
  | .insert => some .insertInto
  | .update => some .updateTable
  | .delete => some .deleteFrom
  | _ => none

/-- Classify a text by its keywords alone. -/
def classify (text : List Char) : Classification :=
  let operation := operation text
  let targets := tables (targetClause? operation).toList text
  let named := tables [.fromTable, .insertInto, .updateTable] text
  { operation := operation
    targets := targets
    references := named.filter fun name => !targets.contains name
    stage := .fallback }

end Keyword
end TableReach
