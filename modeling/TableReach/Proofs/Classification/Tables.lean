import TableReach.Classification.Statement
import TableReach.Proofs.FirstOccurrences
import TableReach.Proofs.Sql.Relations

/-!
# Tables of a statement

The tables of a statement are its relations, each once.  A query that names a table
beside the names it binds is classified by its tree; looking at its sources alone
never helps, so any other query is classified by the keywords of its text.
-/

namespace TableReach
namespace Sql

namespace Statement

/-- The tables of a statement are its relations; the sources joined to the target of an update are
among them. -/
theorem mem_tableNames
    {name : String}
    {statement : Statement} :
    name ∈ statement.tableNames ↔ name ∈ bareNames statement.relations := by
  unfold tableNames
  split
  · next target assignments sources conditions =>
      simp only [mem_bareNames, List.mem_append]
      constructor
      · rintro ⟨table, inRelations | inSources, bare⟩
        · exact ⟨table, inRelations, bare⟩
        · have inTarget := target.sourceTables_subset inSources
          refine ⟨table, ?_, bare⟩
          simp only [Statement.relations, List.mem_append]
          exact Or.inl (Or.inl (Or.inl inTarget))
      · rintro ⟨table, inRelations, bare⟩
        exact ⟨table, Or.inl inRelations, bare⟩
  · rfl

theorem nodup_tableNames (statement : Statement) : statement.tableNames.Nodup := by
  unfold tableNames
  split <;> exact nodup_eraseDups _

@[simp] theorem mem_tablesExcept
    {name : String}
    {statement : Statement}
    {excluded : List String} :
    name ∈ statement.tablesExcept excluded ↔
      name ∈ bareNames statement.relations ∧ name ∉ excluded := by
  rw [tablesExcept, List.mem_filter, mem_tableNames]
  simp only [List.contains_eq_mem, Bool.not_eq_true', decide_eq_false_iff_not]

theorem nodup_tablesExcept
    (statement : Statement)
    (excluded : List String) : (statement.tablesExcept excluded).Nodup :=
  statement.nodup_tableNames.filter _

end Statement

/-- The tables that a query names beside the names it binds. -/
def Query.ownTables (query : Query) : List String :=
  (Statement.query query).tablesExcept query.boundNames

theorem Query.mem_ownTables
    {name : String}
    {query : Query} :
    name ∈ query.ownTables ↔ name ∈ bareNames query.relations ∧ name ∉ query.boundNames :=
  Statement.mem_tablesExcept

/-- The sources of a query without a table of its own hold bound names only. -/
theorem Query.mem_boundNames_of_sourceTables
    {query : Query}
    {name : String}
    (unnamed : query.ownTables = [])
    (present : name ∈ bareNames query.sourceTables) : name ∈ query.boundNames := by
  obtain ⟨table, inSources, bare⟩ := mem_bareNames.mp present
  have inRelations := mem_bareNames.mpr ⟨table, query.sourceTables_subset inSources, bare⟩
  by_contra free
  have own := Query.mem_ownTables.mpr ⟨inRelations, free⟩
  rw [unnamed] at own
  exact nomatch own

end Sql

namespace Classification

open Sql

/-- A query with a table of its own is classified by its tree. -/
theorem value_ofQuery_of_ownTables
    (sql : List Char)
    {query : Query}
    (named : query.ownTables ≠ []) :
    (ofQuery sql query).value =
      { operation := .select, targets := [], references := query.ownTables,
        stage := .structured } := by
  have found : (!query.ownTables.isEmpty) = true := by
    simpa using named
  unfold ofQuery
  rw [Query.ownTables] at found ⊢
  simp only [found, if_true, Logged.value_pure]

/-- A query without a table of its own is classified by the keywords of its text. -/
theorem value_ofQuery_of_no_ownTables
    (sql : List Char)
    {query : Query}
    (unnamed : query.ownTables = []) :
    (ofQuery sql query).value =
      { operation := .select, targets := [], references := Keyword.selectTables sql,
        stage := if (Keyword.selectTables sql).isEmpty then .structured else .keywordSearch } := by
  have nowhere : (bareNames query.sourceTables).filter
      (fun name => !query.boundNames.contains name) = [] := by
    refine List.filter_eq_nil_iff.mpr fun name present => ?_
    simpa using Query.mem_boundNames_of_sourceTables unnamed present
  unfold ofQuery
  rw [Query.ownTables] at unnamed
  simp only [unnamed, nowhere, List.isEmpty_nil, Bool.not_true, Bool.false_eq_true, if_false,
    Logged.value_bind, Logged.value_pure]

end Classification
end TableReach
