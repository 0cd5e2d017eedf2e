import TableReach.Proofs.Classification.Answers
import TableReach.Proofs.Classification.Tables

/-!
# Shape of a classification

However a text is classified, no table is listed twice, no table is listed both as
written and as read, and statements that only read write no table.  Each way of
finding a classification is shown to give one of this shape, and each step that
works on a classification to keep it.
-/

namespace TableReach

namespace Classification

/-- The shape that every classification has. -/
structure WellShaped (found : Classification) : Prop where
  /-- No written table is listed twice. -/
  nodup_targets : found.targets.Nodup
  /-- No read table is listed twice. -/
  nodup_references : found.references.Nodup
  /-- No written table is listed as read. -/
  disjoint : found.targets.Disjoint found.references
  /-- A statement that only reads, or is of no known kind, writes no table. -/
  targets_of_reading :
    found.operation = .select ∨ found.operation = .unknown → found.targets = []
  /-- An insertion that could be read writes one table. -/
  targets_of_insert :
    found.operation = .insert → found.stage = .structured → ∃ table, found.targets = [table]
  /-- An update that could be read writes at most one table. -/
  targets_of_update :
    found.operation = .update → found.stage = .structured → found.targets.length ≤ 1

namespace WellShaped

theorem tables_eq
    {found : Classification}
    (shape : found.WellShaped) : found.tables = found.targets ++ found.references :=
  eraseDups_of_nodup
    (List.Nodup.append shape.nodup_targets shape.nodup_references shape.disjoint)

/-- A classification without written tables that neither inserts nor updates has the shape. -/
theorem of_reading
    {found : Classification}
    (nothingWritten : found.targets = [])
    (nodup : found.references.Nodup)
    (noInsert : found.operation ≠ .insert) : found.WellShaped where
  nodup_targets := by
    rw [nothingWritten]
    exact List.nodup_nil
  nodup_references := nodup
  disjoint := by
    rw [nothingWritten]
    exact List.disjoint_nil_left _
  targets_of_reading _ := nothingWritten
  targets_of_insert insert := absurd insert noInsert
  targets_of_update _ _ := by simp [nothingWritten]

end WellShaped

/-- What the keywords of a text give has the shape. -/
theorem wellShaped_keyword (text : List Char) : (Keyword.classify text).WellShaped where
  nodup_targets := nodup_eraseDups _
  nodup_references := (nodup_eraseDups _).filter _
  disjoint := by
    intro name written read
    have free := (List.mem_filter.mp read).2
    simp only [List.contains_eq_mem, Bool.not_eq_true', decide_eq_false_iff_not] at free
    exact free written
  targets_of_reading reading := by
    have noClause : Keyword.targetClause? (Keyword.operation text) = none := by
      rcases reading with select | unknown
      · exact congrArg Keyword.targetClause? select
      · exact congrArg Keyword.targetClause? unknown
    change Keyword.tables (Keyword.targetClause? (Keyword.operation text)).toList text = []
    rw [noClause]
    rfl
  targets_of_insert _ stage := nomatch stage
  targets_of_update _ stage := nomatch stage

section Structured

open Sql

theorem disjoint_tablesExcept
    {targets excluded : List String}
    (statement : Statement)
    (within : targets ⊆ excluded) : targets.Disjoint (statement.tablesExcept excluded) := by
  intro name written read
  exact (Statement.mem_tablesExcept.mp read).2 (within written)

/-- What a change is classified as has the shape. -/
theorem wellShaped_ofChange
    (sql : List Char)
    (statement : Statement) : (ofChange sql statement).value.WellShaped := by
  unfold ofChange
  split
  · next target rows parts =>
      exact {
        nodup_targets := List.nodup_singleton _
        nodup_references := Statement.nodup_tablesExcept _ _
        disjoint := disjoint_tablesExcept _ (List.Subset.refl _)
        targets_of_reading := by rintro (select | unknown) <;> contradiction
        targets_of_insert := fun _ _ => ⟨_, rfl⟩
        targets_of_update := fun _ _ => Nat.le_refl 1 }
  · next target assignments sources conditions =>
      split
      · exact {
          nodup_targets := List.nodup_singleton _
          nodup_references := Statement.nodup_tablesExcept _ _
          disjoint := disjoint_tablesExcept _ (List.Subset.refl _)
          targets_of_reading := by rintro (select | unknown) <;> contradiction
          targets_of_insert := by rintro ⟨⟩
          targets_of_update := fun _ _ => Nat.le_refl 1 }
      · exact .of_reading rfl (Statement.nodup_tablesExcept _ _) (by rintro ⟨⟩)
  · next names sources others conditions =>
      have nodup : (deletionTargets names sources (sources.flatMap TableItem.aliases)).Nodup := by
        unfold deletionTargets
        split <;> exact nodup_eraseDups _
      exact {
        nodup_targets := nodup
        nodup_references := Statement.nodup_tablesExcept _ _
        disjoint := disjoint_tablesExcept _ (List.subset_append_left _ _)
        targets_of_reading := by rintro (select | unknown) <;> contradiction
        targets_of_insert := by rintro ⟨⟩
        targets_of_update := by rintro ⟨⟩ }
  · exact .of_reading rfl List.nodup_nil (by rintro ⟨⟩)

/-- What a query is classified as has the shape. -/
theorem wellShaped_ofQuery
    (sql : List Char)
    (query : Query) : (ofQuery sql query).value.WellShaped := by
  by_cases named : query.ownTables = []
  · rw [value_ofQuery_of_no_ownTables sql named]
    exact .of_reading rfl (nodup_eraseDups _) (by rintro ⟨⟩)
  · rw [value_ofQuery_of_ownTables sql named]
    exact .of_reading rfl (Statement.nodup_tablesExcept _ _) (by rintro ⟨⟩)

/-- Adding what named queries read keeps the shape. -/
theorem WellShaped.withDefinitions
    {inner : Classification}
    (shape : inner.WellShaped)
    (query : Query) : (withDefinitions query inner).WellShaped where
  nodup_targets := shape.nodup_targets
  nodup_references := nodup_eraseDups _
  disjoint := by
    intro name written read
    rcases List.mem_append.mp (List.mem_eraseDups.mp read) with kept | added
    · exact shape.disjoint written (List.mem_filter.mp kept).1
    · exact disjoint_tablesExcept _ (List.subset_append_right _ _) written added
  targets_of_reading := shape.targets_of_reading
  targets_of_insert := shape.targets_of_insert
  targets_of_update := shape.targets_of_update

/-- A change is classified by its tree. -/
theorem stage_ofChange
    (sql : List Char)
    (statement : Statement) : (ofChange sql statement).value.stage = .structured := by
  unfold ofChange
  split
  · rfl
  · split <;> rfl
  · rfl
  · rfl

/-- What a statement is classified as has the shape, and no statement is blank. -/
theorem wellShaped_ofStatement
    (sql : List Char)
    (statement : Statement) :
    (ofStatement sql statement).value.WellShaped ∧
      (ofStatement sql statement).value.stage ≠ .empty := by
  unfold ofStatement
  split
  · next definitions inner trailing steps =>
      refine ⟨(wellShaped_ofChange sql inner).withDefinitions _, ?_⟩
      change (ofChange sql inner).value.stage ≠ .empty
      rw [stage_ofChange]
      exact nofun
  · next query _ =>
      refine ⟨wellShaped_ofQuery sql query, ?_⟩
      by_cases named : query.ownTables = []
      · rw [value_ofQuery_of_no_ownTables sql named]
        dsimp only
        split <;> exact nofun
      · rw [value_ofQuery_of_ownTables sql named]
        exact nofun
  · refine ⟨wellShaped_ofChange sql _, ?_⟩
    rw [stage_ofChange]
    exact nofun

end Structured

/-- What a text is classified as has the shape, and it is not taken for a blank one. -/
theorem wellShaped_ofText
    (dialect : Sql.Dialect)
    (raw : List Char) :
    (ofText dialect raw).value.WellShaped ∧ (ofText dialect raw).value.stage ≠ .empty := by
  rw [value_ofText]
  split
  · exact wellShaped_ofStatement _ _
  · exact ⟨wellShaped_keyword raw, nofun⟩

theorem wellShaped_ofBlank : ofBlank.WellShaped :=
  .of_reading rfl List.nodup_nil nofun

/-- Every text is classified in the shape; it is taken for a blank one exactly if it is one. -/
theorem wellShaped_ofRaw
    (dialect : Sql.Dialect)
    (text : String) :
    (ofRaw dialect text).WellShaped ∧
      ((ofRaw dialect text).stage = .empty ↔ Text.allBlank text.toList = true) := by
  unfold ofRaw
  split
  · next blank => exact ⟨wellShaped_ofBlank, iff_of_true rfl blank⟩
  · next written =>
      obtain ⟨shape, notEmpty⟩ := wellShaped_ofText dialect text.toList
      exact ⟨shape, iff_of_false notEmpty written⟩

end Classification

namespace Classifier

/-- Whatever a classifier has classified before, every text that is given to it is classified, in
the shape of a classification: no table is listed twice or both as written and as read, so that
the tables are those written and then those read; statements that only read write nothing; an
insertion that can be read writes one table and an update at most one.  The text is taken for a
blank one exactly if all of its characters are blank, and then nothing is read or written. -/
theorem classify_wellShaped
    (dialect : Sql.Dialect)
    (capacity : Nat)
    (history : List (Eviction × String))
    (evict : Eviction)
    (text : String) :
    ∃ found,
      (((fresh dialect capacity).afterTexts history).classify evict (some text)).value.1 =
        .ok found ∧
      found.WellShaped ∧
      found.tables = found.targets ++ found.references ∧
      (found.stage = .empty ↔ ∀ character ∈ text.toList, Text.isBlank character = true) ∧
      (found.stage = .empty →
        found = { operation := .select, targets := [], references := [], stage := .empty }) := by
  obtain ⟨shape, blankIff⟩ := Classification.wellShaped_ofRaw dialect text
  have answered :
      (((fresh dialect capacity).afterTexts history).classify evict (some text)).value.1 =
        .ok (Classification.ofRaw dialect text) := by
    rw [← classifyText_afterTexts dialect capacity history evict text]
    rfl
  refine ⟨_, answered, shape, shape.tables_eq, ?_, ?_⟩
  · rw [blankIff, Text.allBlank, List.all_eq_true]
  · intro isEmpty
    have blank := blankIff.mp isEmpty
    rw [Classification.ofRaw, if_pos blank]
    rfl

end Classifier
end TableReach
