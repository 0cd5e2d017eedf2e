import TableReach.Text.Blank

/-!
# Syntax trees

The tree of a statement keeps what decides which tables it reads and writes: the
names, the queries and the order in which they stand.  Operators and literals
leave no trace but their operands.
-/

namespace TableReach
namespace Sql

/-- A name as it is written. -/
structure Ident where
  /-- The name without its quotes. -/
  text : String
  /-- The character that opens its quotes. -/
  quote : Option Char
deriving DecidableEq

namespace Ident

/-- The name with its quotes, in which a quote inside is doubled. -/
def printed (ident : Ident) : String :=
  match ident.quote with
  | none => ident.text
  | some '[' => "[" ++ ident.text ++ "]"
  | some quote =>
      String.ofList (quote ::
        ident.text.toList.flatMap (fun character =>
          if character == quote then [quote, quote] else [character]) ++ [quote])

end Ident

/-- A dotted name. -/
abbrev ObjectName := List Ident

/-- A dotted name as it is written. -/
def ObjectName.printed (name : ObjectName) : String :=
  ".".intercalate (name.map Ident.printed)

mutual

/-- An expression. -/
inductive Expr where
  /-- A column or other plain name. -/
  | name (ident : Ident)
  /-- A literal, parameter or wildcard. -/
  | literal
  /-- Anything made of operands, from left to right. -/
  | compound (parts : List Expr)
  /-- A query used as a value. -/
  | subquery (query : Query)

/-- A query with its named queries, the expressions of its order and limits, and the steps that
its rows go through afterwards. -/
inductive Query where
  | mk
      (definitions : List NamedQuery)
      (body : Body)
      (trailing : List Expr)
      (steps : List Step)

/-- A step that the rows of a query go through. -/
inductive Step where
  /-- The expressions that a step computes or tests. -/
  | compute (parts : List Expr)
  /-- A further source. -/
  | join (join : Join)

/-- A query that is given a name for use in another one. -/
inductive NamedQuery where
  | mk (name : Ident) (query : Query)

/-- The body of a query. -/
inductive Body where
  /-- Columns, sources and conditions. -/
  | select (columns : List Expr) (sources : List TableItem) (conditions : List Expr)
  /-- A query in brackets. -/
  | nested (query : Query)
  /-- A union, intersection or difference. -/
  | combined (left right : Body)
  /-- Rows of values. -/
  | values (rows : List Expr)
  /-- All rows of a table, given by name. -/
  | wholeTable
  /-- A statement that inserts, updates or deletes. -/
  | change (statement : Statement)
  /-- A statement that merges. -/
  | merge (statement : Statement)

/-- A source with the sources joined to it. -/
inductive TableItem where
  | mk (source : Source) (joins : List Join)

/-- A joined source and the expressions of its condition. -/
inductive Join where
  | mk (source : Source) (condition : List Expr)

/-- A source of rows. -/
inductive Source where
  /-- A table, its second name and the arguments it is called with. -/
  | table (name : ObjectName) (label : Option Ident) (arguments : List Expr)
  /-- A query in brackets. -/
  | derived (query : Query) (label : Option Ident)
  /-- Joined tables in brackets. -/
  | nested (item : TableItem)
  /-- Rows that an expression computes. -/
  | computed (arguments : List Expr) (label : Option Ident)
  /-- A source turned between rows and columns, or searched for a pattern of rows. -/
  | turned (source : Source) (arguments : List Expr) (label : Option Ident)

/-- A statement. -/
inductive Statement where
  /-- A query. -/
  | query (query : Query)
  /-- New rows for a table: the rows and the remaining expressions. -/
  | insert (target : ObjectName) (source : Option Query) (parts : List Expr)
  /-- Changed rows of a table. -/
  | update
      (target : TableItem)
      (assignments : List Expr)
      (sources : List TableItem)
      (conditions : List Expr)
  /-- Removed rows: the tables named before the sources, the sources, further sources. -/
  | delete
      (names : List ObjectName)
      (sources : List TableItem)
      (others : List TableItem)
      (conditions : List Expr)
  /-- Rows of one source merged into another. -/
  | merge (target source : Source) (parts : List Expr)
  /-- Rows written to a directory. -/
  | directory (source : Query)
  /-- A statement that touches no rows. -/
  | other

end

end Sql
end TableReach
