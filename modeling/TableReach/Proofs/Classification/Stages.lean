import TableReach.Proofs.Classification.Shape

/-!
# Stages of a classification

A query is looked at up to three times: as a tree, by its sources alone, and by the
keywords of its text.  The sources of a query hold no table that its tree does not, so
the second look finds nothing where the first found nothing, and no text is ever
classified by it.
-/

namespace TableReach

namespace Sql

/-- The tables among the sources of a query beside the names it binds. -/
def Query.walkedTables (query : Query) : List String :=
  (bareNames query.sourceTables).filter fun name => !query.boundNames.contains name

theorem Query.bareNames_sourceTables_subset
    (query : Query) :
    bareNames query.sourceTables ⊆ (Statement.query query).tableNames := by
  intro name present
  obtain ⟨table, inSources, bare⟩ := mem_bareNames.mp present
  rw [Statement.mem_tableNames]
  exact mem_bareNames.mpr ⟨table, query.sourceTables_subset inSources, bare⟩

/-- Every table that looking at the sources finds is found by looking at the tree. -/
theorem Query.walkedTables_subset_ownTables
    (query : Query) : query.walkedTables ⊆ query.ownTables := by
  intro name walked
  obtain ⟨inSources, free⟩ := List.mem_filter.mp walked
  have inTree := query.bareNames_sourceTables_subset inSources
  exact List.mem_filter.mpr ⟨inTree, free⟩

end Sql

namespace Classification

open Sql

/-- A query is classified by its tree, or by keywords where its tree names no table of its own and
the keywords find one. -/
theorem stage_ofQuery
    (sql : List Char)
    (query : Query) :
    (ofQuery sql query).value.stage =
      if query.ownTables = [] ∧ Keyword.selectTables sql ≠ [] then .keywordSearch
      else .structured := by
  by_cases unnamed : query.ownTables = []
  · rw [value_ofQuery_of_no_ownTables sql unnamed]
    by_cases nothing : Keyword.selectTables sql = []
    · simp [nothing]
    · simp [unnamed, nothing]
  · rw [value_ofQuery_of_ownTables sql unnamed]
    simp [unnamed]

/-- A statement is classified by its tree or by keywords. -/
theorem stage_ofStatement
    (sql : List Char)
    (statement : Statement) :
    (ofStatement sql statement).value.stage = .structured ∨
      (ofStatement sql statement).value.stage = .keywordSearch := by
  unfold ofStatement
  split
  · next definitions inner trailing steps => exact Or.inl (stage_ofChange sql inner)
  · next query _ =>
      rw [stage_ofQuery]
      split
      · exact Or.inr rfl
      · exact Or.inl rfl
  · exact Or.inl (stage_ofChange sql _)

/-- No text is classified by its sources alone. -/
theorem stage_ofRaw_ne_shapeWalk
    (dialect : Sql.Dialect)
    (text : String) : (ofRaw dialect text).stage ≠ .shapeWalk := by
  unfold ofRaw
  split
  · rintro ⟨⟩
  · rw [value_ofText]
    split
    · next first _ =>
        rcases stage_ofStatement (Template.prepare text.toList).sql first with byTree | byKeywords
        · simp [byTree]
        · simp [byKeywords]
    · rintro ⟨⟩

end Classification

namespace Classifier

open Sql

/-- Looking at the sources of a query alone is never what decides.  The tables among the sources, in
the branches of unions, in brackets, in derived tables and in joins of any depth, are all tables of
the whole query; so where the query names no table beside the names it binds, its sources name none
either; and whatever a classifier has classified before, every text is classified, at another
stage. -/
theorem stage_ne_shapeWalk :
    (∀ query : Query, bareNames query.sourceTables ⊆ (Statement.query query).tableNames) ∧
    (∀ query : Query, query.ownTables = [] → query.walkedTables = []) ∧
    (∀ (sql : List Char) (statement : Statement),
      (Classification.ofStatement sql statement).value.stage ≠ .shapeWalk) ∧
    ∀ (dialect : Dialect) (capacity : Nat) (history : List (Eviction × String)) (evict : Eviction)
      (text : String),
      ∃ found,
        (((fresh dialect capacity).afterTexts history).classify evict (some text)).value.1 =
          .ok found ∧
        found.stage ≠ .shapeWalk := by
  refine ⟨fun query => query.bareNames_sourceTables_subset, ?_, ?_, ?_⟩
  · intro query unnamed
    have noneLeft := query.walkedTables_subset_ownTables
    rw [unnamed] at noneLeft
    exact List.subset_nil.mp noneLeft
  · intro sql statement
    rcases Classification.stage_ofStatement sql statement with byTree | byKeywords
    · simp [byTree]
    · simp [byKeywords]
  · intro dialect capacity history evict text
    refine ⟨Classification.ofRaw dialect text, ?_,
      Classification.stage_ofRaw_ne_shapeWalk dialect text⟩
    rw [← classifyText_afterTexts dialect capacity history evict text]
    rfl

end Classifier
end TableReach
