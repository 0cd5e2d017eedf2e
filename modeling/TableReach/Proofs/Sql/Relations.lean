import TableReach.Sql.Relations

/-!
# Source tables are relations

The tables among the sources of a query are relations of the query: looking at the
sources alone finds nothing that the whole tree does not hold.
-/

namespace TableReach
namespace Sql

@[simp] theorem mem_bareNames
    {name : String}
    {tables : List ObjectName} :
    name ∈ bareNames tables ↔ ∃ table ∈ tables, ObjectName.bare table = name := by
  simp [bareNames]

mutual

/-- The source tables of a query are relations of it. -/
theorem Query.sourceTables_subset :
    ∀ query : Query, query.sourceTables ⊆ query.relations
  | .mk definitions body trailing steps => by
      intro table present
      have inBody := body.sourceTables_subset present
      simp only [Query.relations, List.mem_append]
      exact Or.inl (Or.inl (Or.inr inBody))

/-- The source tables of the body of a query are relations of it. -/
theorem Body.sourceTables_subset :
    ∀ body : Body, body.sourceTables ⊆ body.relations
  | .select columns sources conditions => by
      intro table present
      have inSources := sourceTablesOfItems_subset sources present
      simp only [Body.relations, List.mem_append]
      exact Or.inl (Or.inr inSources)
  | .nested query => query.sourceTables_subset
  | .combined left right => by
      intro table present
      rcases List.mem_append.mp present with inLeft | inRight
      · exact List.mem_append_left _ (left.sourceTables_subset inLeft)
      · exact List.mem_append_right _ (right.sourceTables_subset inRight)
  | .values _ => List.nil_subset _
  | .wholeTable => List.nil_subset _
  | .change _ => List.nil_subset _
  | .merge _ => List.nil_subset _

theorem TableItem.sourceTables_subset :
    ∀ item : TableItem, item.sourceTables ⊆ item.relations
  | .mk source joins => by
      intro table present
      rcases List.mem_append.mp present with inSource | inJoins
      · exact List.mem_append_left _ (source.sourceTables_subset inSource)
      · exact List.mem_append_right _ (sourceTablesOfJoins_subset joins inJoins)

/-- The source tables of sources with their joins are relations of them. -/
theorem sourceTablesOfItems_subset :
    ∀ items : List TableItem, sourceTablesOfItems items ⊆ relationsOfItems items
  | [] => List.nil_subset _
  | item :: others => by
      intro table present
      rcases List.mem_append.mp present with inItem | inOthers
      · exact List.mem_append_left _ (item.sourceTables_subset inItem)
      · exact List.mem_append_right _ (sourceTablesOfItems_subset others inOthers)

/-- The source tables of joins are relations of them. -/
theorem sourceTablesOfJoins_subset :
    ∀ joins : List Join, sourceTablesOfJoins joins ⊆ relationsOfJoins joins
  | [] => List.nil_subset _
  | .mk source condition :: others => by
      intro table present
      rcases List.mem_append.mp present with inSource | inOthers
      · exact List.mem_append_left _ (List.mem_append_left _ (source.sourceTables_subset inSource))
      · exact List.mem_append_right _ (sourceTablesOfJoins_subset others inOthers)

/-- The source tables of a source are relations of it. -/
theorem Source.sourceTables_subset :
    ∀ source : Source, source.sourceTables ⊆ source.relations
  | .table name _ arguments => by
      intro table present
      obtain rfl := List.mem_singleton.mp present
      exact List.mem_cons_self
  | .derived query _ => query.sourceTables_subset
  | .nested item => item.sourceTables_subset
  | .computed _ _ => List.nil_subset _
  | .turned _ _ _ => List.nil_subset _

end

end Sql
end TableReach
