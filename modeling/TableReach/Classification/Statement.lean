import TableReach.Event
import TableReach.Sql.Relations
import TableReach.Classification.Keyword

/-!
# Classification of a statement

The tree of a statement decides what it does and with which tables.  A query for
which the tree gives no table is looked at again in two weaker ways: the sources
alone, then the keywords of its text.
-/

namespace TableReach

open Sql

/-- The first characters of a text on one line. -/
def preview (text : List Char) : String :=
  let line := Text.unwords (Text.words text)
  if line.length ≤ 50 then String.ofList line
  else String.ofList (line.take 50) ++ "..."

namespace Sql

/-- The name of a source that is a plain table. -/
def Source.bareName? : Source → Option String
  | .table name _ _ => some (ObjectName.bare name)
  | _ => none

/-- The second name and the name of a source that is a plain table with a second name. -/
def Source.alias? : Source → Option (String × String)
  | .table name (some label) _ => some (label.text, ObjectName.bare name)
  | _ => none

/-- The second names in a source with its joins. -/
def TableItem.aliases : TableItem → List (String × String)
  | .mk source joins =>
      (source :: joins.map fun
        | .mk joined _ => joined).filterMap Source.alias?

/-- The source of an item. -/
def TableItem.source : TableItem → Source
  | .mk source _ => source

/-- The names that the named queries of a query bind. -/
def Query.boundNames : Query → List String
  | .mk definitions _ _ _ =>
      definitions.map fun
        | .mk name _ => bareName name.text

/-- The relations of a statement by bare name; for an update the sources joined to its target
count too. -/
def Statement.tableNames (statement : Statement) : List String :=
  match statement with
  | .update target _ _ _ => bareNames (statement.relations ++ target.sourceTables)
  | _ => bareNames statement.relations

/-- The tables of a statement without some of them. -/
def Statement.tablesExcept
    (statement : Statement)
    (excluded : List String) : List String :=
  statement.tableNames.filter fun name => !excluded.contains name

end Sql

namespace Classification

/-- A classification by the tree. -/
def structured
    (operation : Operation)
    (targets references : List String) : Classification :=
  { operation := operation, targets := targets, references := references, stage := .structured }

/-- The tables that a deletion removes rows from. -/
def deletionTargets
    (names : List ObjectName)
    (sources : List TableItem)
    (aliases : List (String × String)) : List String :=
  if names.isEmpty then (sources.filterMap fun item => item.source.bareName?).eraseDups
  else
    (names.map fun name =>
      let bare := ObjectName.bare name
      ((aliases.find? fun found => found.1 == bare).map Prod.snd).getD bare).eraseDups

/-- Classify a statement that changes rows. -/
def ofChange (sql : List Char) (statement : Statement) : Logged Classification :=
  match statement with
  | .insert target _ _ =>
      let name := ObjectName.bare target
      pure (structured .insert [name] (statement.tablesExcept [name]))
  | .update target _ _ _ =>
      match target.source.bareName? with
      | some name => pure (structured .update [name] (statement.tablesExcept [name]))
      | none => do
          Logged.leave .warn "UPDATE without a resolvable target table" [("sql", preview sql)]
          pure (structured .update [] (statement.tablesExcept []))
  | .delete names sources _ _ =>
      let aliases := sources.flatMap TableItem.aliases
      let targets := deletionTargets names sources aliases
      pure (structured .delete targets
        (statement.tablesExcept (targets ++ aliases.map Prod.fst)))
  | _ => do
      Logged.leave .warn "unrecognized statement shape" [("kind", "INSERT")]
      pure (structured .unknown [] [])

/-- Classify a query by its tree, else by its sources, else by the keywords of its text. -/
def ofQuery (sql : List Char) (query : Query) : Logged Classification := do
  let bound := query.boundNames
  let read (tables : List String) (stage : Stage) : Classification :=
    { operation := .select, targets := [], references := tables, stage := stage }
  let whole := (Statement.query query).tablesExcept bound
  if !whole.isEmpty then return read whole .structured
  Logged.leave .trace "whole-statement extraction empty, walking query shape"
    [("reason", "statement references no relations")]
  let walked := (bareNames query.sourceTables).filter fun name => !bound.contains name
  if !walked.isEmpty then return read walked .shapeWalk
  Logged.leave .trace "shape walk empty, matching FROM/JOIN keywords"
    [("reason", "query shape has no tables")]
  let found := Keyword.selectTables sql
  return read found (if found.isEmpty then .structured else .keywordSearch)

/-- Add the tables that the named queries around a change read. -/
def withDefinitions (query : Query) (inner : Classification) : Classification :=
  let bound := query.boundNames
  let kept := inner.references.filter fun name => !bound.contains name
  { inner with
    references :=
      (kept ++ (Statement.query query).tablesExcept (bound ++ inner.targets)).eraseDups }

/-- Classify a statement. -/
def ofStatement (sql : List Char) (statement : Statement) : Logged Classification :=
  match statement with
  | .query (.mk definitions (.change inner) trailing steps) => do
      let found ← ofChange sql inner
      return withDefinitions (.mk definitions (.change inner) trailing steps) found
  | .query query => ofQuery sql query
  | change => ofChange sql change

end Classification
end TableReach
