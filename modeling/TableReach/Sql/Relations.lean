import TableReach.Sql.TableName

/-!
# Relations of a statement

`relations` lists every table that a statement names as a source or target, at
any depth, in the order in which they are visited: named queries first, then
columns, sources, conditions, what trails behind, and later steps.  Names before the sources of
a deletion, and the names given to queries, are no relations.

`sourceTables` is the smaller view that looks only at the sources of a query and
of the queries in their place, and at no expression.
-/

namespace TableReach
namespace Sql

mutual

/-- The relations of an expression. -/
def Expr.relations : Expr → List ObjectName
  | .name _ => []
  | .literal => []
  | .compound parts => relationsOfExprs parts
  | .subquery query => query.relations

/-- The relations of expressions. -/
def relationsOfExprs : List Expr → List ObjectName
  | [] => []
  | expr :: others => expr.relations ++ relationsOfExprs others

/-- The relations of a query. -/
def Query.relations : Query → List ObjectName
  | .mk definitions body trailing steps =>
      relationsOfDefinitions definitions ++ body.relations ++ relationsOfExprs trailing ++
        relationsOfSteps steps

/-- The relations of a step. -/
def Step.relations : Step → List ObjectName
  | .compute parts => relationsOfExprs parts
  | .join join => join.relations

/-- The relations of steps. -/
def relationsOfSteps : List Step → List ObjectName
  | [] => []
  | step :: others => step.relations ++ relationsOfSteps others

/-- The relations of a named query. -/
def NamedQuery.relations : NamedQuery → List ObjectName
  | .mk _ query => query.relations

/-- The relations of named queries. -/
def relationsOfDefinitions : List NamedQuery → List ObjectName
  | [] => []
  | definition :: others => definition.relations ++ relationsOfDefinitions others

/-- The relations of the body of a query. -/
def Body.relations : Body → List ObjectName
  | .select columns sources conditions =>
      relationsOfExprs columns ++ relationsOfItems sources ++ relationsOfExprs conditions
  | .nested query => query.relations
  | .combined left right => left.relations ++ right.relations
  | .values rows => relationsOfExprs rows
  | .wholeTable => []
  | .change statement => statement.relations
  | .merge statement => statement.relations

/-- The relations of a source with its joins. -/
def TableItem.relations : TableItem → List ObjectName
  | .mk source joins => source.relations ++ relationsOfJoins joins

/-- The relations of sources with their joins. -/
def relationsOfItems : List TableItem → List ObjectName
  | [] => []
  | item :: others => item.relations ++ relationsOfItems others

/-- The relations of a join. -/
def Join.relations : Join → List ObjectName
  | .mk source condition => source.relations ++ relationsOfExprs condition

/-- The relations of joins. -/
def relationsOfJoins : List Join → List ObjectName
  | [] => []
  | join :: others => join.relations ++ relationsOfJoins others

/-- The relations of a source. -/
def Source.relations : Source → List ObjectName
  | .table name _ arguments => name :: relationsOfExprs arguments
  | .derived query _ => query.relations
  | .nested item => item.relations
  | .computed arguments _ => relationsOfExprs arguments
  | .turned source arguments _ => source.relations ++ relationsOfExprs arguments

/-- The relations of a statement. -/
def Statement.relations : Statement → List ObjectName
  | .query query => query.relations
  | .insert target source parts =>
      target :: relationsOfOptionalQuery source ++ relationsOfExprs parts
  | .update target assignments sources conditions =>
      target.relations ++ relationsOfExprs assignments ++ relationsOfItems sources ++
        relationsOfExprs conditions
  | .delete _ sources others conditions =>
      relationsOfItems sources ++ relationsOfItems others ++ relationsOfExprs conditions
  | .merge target source parts => target.relations ++ source.relations ++ relationsOfExprs parts
  | .directory source => source.relations
  | .other => []

/-- The relations of a query that may be absent. -/
def relationsOfOptionalQuery : Option Query → List ObjectName
  | none => []
  | some query => query.relations

end

mutual

/-- The tables among the sources of a query. -/
def Query.sourceTables : Query → List ObjectName
  | .mk _ body _ _ => body.sourceTables

/-- The tables among the sources of the body of a query. -/
def Body.sourceTables : Body → List ObjectName
  | .select _ sources _ => sourceTablesOfItems sources
  | .nested query => query.sourceTables
  | .combined left right => left.sourceTables ++ right.sourceTables
  | .values _ => []
  | .wholeTable => []
  | .change _ => []
  | .merge _ => []

/-- The tables of a source with its joins. -/
def TableItem.sourceTables : TableItem → List ObjectName
  | .mk source joins => source.sourceTables ++ sourceTablesOfJoins joins

/-- The tables of sources with their joins. -/
def sourceTablesOfItems : List TableItem → List ObjectName
  | [] => []
  | item :: others => item.sourceTables ++ sourceTablesOfItems others

/-- The tables of joins. -/
def sourceTablesOfJoins : List Join → List ObjectName
  | [] => []
  | .mk source _ :: others => source.sourceTables ++ sourceTablesOfJoins others

/-- The tables of a source. -/
def Source.sourceTables : Source → List ObjectName
  | .table name _ _ => [name]
  | .derived query _ => query.sourceTables
  | .nested item => item.sourceTables
  | .computed _ _ => []
  | .turned _ _ _ => []

end

/-- The bare names of tables, each once, in the order of their first occurrence. -/
def bareNames (names : List ObjectName) : List String :=
  (names.map ObjectName.bare).eraseDups

end Sql
end TableReach
