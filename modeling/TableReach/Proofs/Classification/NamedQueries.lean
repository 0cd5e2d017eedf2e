import TableReach.Proofs.Classification.Answers
import TableReach.Proofs.Classification.PlainText
import TableReach.Proofs.Classification.Tables

/-!
# Named queries around a statement

A query may bind names to queries of its own, and a change may stand behind such
names.  Two questions are settled here.  A bound name counts as a table only where
the keywords of the text decide.  Around a change, named queries add the tables that
they read, and bring back the second names of a deletion that are also relations.
-/

namespace TableReach
namespace Sql

/-- The statement changes the rows of a table. -/
def Statement.changesRows : Statement → Bool
  | .insert _ _ _ => true
  | .update _ _ _ _ => true
  | .delete _ _ _ _ => true
  | _ => false

/-- The query that a statement is. -/
def Statement.query? : Statement → Option Query
  | .query inside => some inside
  | _ => none

theorem Statement.eq_of_query?
    {statement : Statement}
    {query : Query}
    (isQuery : statement.query? = some query) : statement = .query query := by
  cases statement with
  | query inside => exact congrArg Statement.query (Option.some_inj.mp isQuery)
  | _ => cases isQuery

/-- The names that a deletion gives its sources beside their own. -/
def Statement.secondNames : Statement → List String
  | .delete _ sources _ _ => (sources.flatMap TableItem.aliases).map Prod.fst
  | _ => []

/-- The body of the query changes rows. -/
def Query.changesRows : Query → Bool
  | .mk _ (.change _) _ _ => true
  | _ => false

/-- A query has no table of its own exactly if all its relations are names that it binds. -/
theorem Query.ownTables_eq_nil_iff
    {query : Query} :
    query.ownTables = [] ↔ bareNames query.relations ⊆ query.boundNames := by
  rw [List.eq_nil_iff_forall_not_mem]
  constructor
  · intro unnamed name present
    by_contra free
    exact unnamed name (Query.mem_ownTables.mpr ⟨present, free⟩)
  · intro within name own
    obtain ⟨present, free⟩ := Query.mem_ownTables.mp own
    exact free (within present)

end Sql

namespace Classification

open Sql

/-- Around a change, what is read is no bound name; it is read by the change, or it is a relation
of the whole that the change does not write. -/
theorem mem_references_withDefinitions
    {name : String}
    {query : Query}
    {inner : Classification} :
    name ∈ (withDefinitions query inner).references ↔
      name ∉ query.boundNames ∧
        (name ∈ inner.references ∨
          name ∈ bareNames query.relations ∧ name ∉ inner.targets) := by
  have kept : name ∈ (withDefinitions query inner).references ↔
      (name ∈ inner.references ∧ name ∉ query.boundNames) ∨
        (name ∈ bareNames query.relations ∧ name ∉ query.boundNames ++ inner.targets) := by
    unfold withDefinitions
    simp only [List.mem_eraseDups, List.mem_append, List.mem_filter, Statement.mem_tablesExcept,
      List.contains_eq_mem, Bool.not_eq_true', decide_eq_false_iff_not]
    rfl
  rw [kept, List.mem_append]
  tauto

theorem ofStatement_of_reading
    (sql : List Char)
    {query : Query}
    (reading : query.changesRows = false) :
    ofStatement sql (.query query) = ofQuery sql query := by
  obtain ⟨definitions, body, trailing, steps⟩ := query
  cases body <;> first | rfl | exact nomatch reading

/-- A bound name is taken for a table exactly where a query names bound names only, changes no
rows, and has the name behind a keyword of its text. -/
theorem mem_references_of_bound
    (sql : List Char)
    {query : Query}
    {name : String}
    (bound : name ∈ query.boundNames) :
    name ∈ (ofStatement sql (.query query)).value.references ↔
      query.changesRows = false ∧ bareNames query.relations ⊆ query.boundNames ∧
        name ∈ Keyword.selectTables sql := by
  cases changes : query.changesRows with
  | true =>
      obtain ⟨definitions, inner, trailing, steps, rfl⟩ :
          ∃ definitions inner trailing steps,
            query = .mk definitions (.change inner) trailing steps := by
        unfold Query.changesRows at changes
        split at changes
        · exact ⟨_, _, _, _, rfl⟩
        · exact nomatch changes
      refine iff_of_false (fun read => ?_) (fun claimed => nomatch claimed.1)
      exact (mem_references_withDefinitions.mp read).1 bound
  | false =>
      rw [ofStatement_of_reading sql changes, ← Query.ownTables_eq_nil_iff]
      by_cases unnamed : query.ownTables = []
      · rw [value_ofQuery_of_no_ownTables sql unnamed]
        exact ⟨fun found => ⟨rfl, unnamed, found⟩, fun claimed => claimed.2.2⟩
      · rw [value_ofQuery_of_ownTables sql unnamed]
        refine iff_of_false (fun own => ?_) (fun claimed => unnamed claimed.2.1)
        exact (Query.mem_ownTables.mp own).2 bound

theorem ofStatement_of_changesRows
    (sql : List Char)
    {statement : Statement}
    (changes : statement.changesRows = true) :
    ofStatement sql statement = ofChange sql statement := by
  cases statement <;> first | rfl | exact nomatch changes

/-- A change reads its relations that it does not write, the second names of a deletion apart. -/
theorem mem_references_ofChange
    (sql : List Char)
    {statement : Statement}
    {name : String}
    (changes : statement.changesRows = true) :
    name ∈ (ofChange sql statement).value.references ↔
      name ∈ bareNames statement.relations ∧
        name ∉ (ofChange sql statement).value.targets ∧ name ∉ statement.secondNames := by
  cases statement with
  | insert target source parts => simp [ofChange, structured, Statement.secondNames]
  | update target assignments sources conditions =>
      simp only [ofChange]
      cases target.source.bareName? <;> simp [structured, Statement.secondNames]
  | delete names sources others conditions =>
      simp only [ofChange, structured, Statement.secondNames, Logged.value_pure,
        Statement.mem_tablesExcept, List.mem_append, not_or]
  | query query => cases changes
  | merge target source parts => cases changes
  | directory source => cases changes
  | other => cases changes

/-- Named queries around a change keep what it does and what it writes.  What is read then is no
bound name and not written: it is read by the change alone, it is a relation of the named queries,
or it is a relation of a deletion that is also a second name of one of its sources.  So the named
queries add exactly what they read themselves where no second name comes back: each second name
that is a relation is bound, written, or read by a named query. -/
theorem references_of_wrapped_change
    (sql : List Char)
    (definitions : List NamedQuery)
    {change : Statement}
    (changes : change.changesRows = true) :
    let alone := (ofStatement sql change).value
    let wrapping := Query.mk definitions (.change change) [] []
    let wrapped := (ofStatement sql (.query wrapping)).value
    let added := bareNames (relationsOfDefinitions definitions)
    wrapped.operation = alone.operation ∧
    wrapped.targets = alone.targets ∧
    (∀ name, name ∈ wrapped.references ↔
      (name ∈ alone.references ∨ name ∈ added ∨
        (name ∈ change.secondNames ∧ name ∈ bareNames change.relations)) ∧
      name ∉ wrapping.boundNames ∧ name ∉ alone.targets) ∧
    ((∀ name, name ∈ wrapped.references ↔
        (name ∈ alone.references ∨ name ∈ added) ∧
        name ∉ wrapping.boundNames ∧ name ∉ alone.targets) ↔
      ∀ name ∈ change.secondNames, name ∈ bareNames change.relations →
        name ∈ wrapping.boundNames ∨ name ∈ alone.targets ∨ name ∈ added) := by
  intro alone wrapping wrapped added
  have alone_eq : alone = (ofChange sql change).value := by
    rw [← ofStatement_of_changesRows sql changes]
  have wrapped_eq : wrapped = withDefinitions wrapping alone := by
    rw [alone_eq]
    rfl
  have relations (name : String) :
      name ∈ bareNames wrapping.relations ↔ name ∈ added ∨ name ∈ bareNames change.relations := by
    simp only [wrapping, added, mem_bareNames, Query.relations, Body.relations, relationsOfExprs,
      relationsOfSteps, List.append_nil, List.mem_append, or_and_right, exists_or]
  have read (name : String) :
      name ∈ alone.references ↔
        name ∈ bareNames change.relations ∧ name ∉ alone.targets ∧
          name ∉ change.secondNames := by
    rw [alone_eq]
    exact mem_references_ofChange sql changes
  have exact_references (name : String) :
      name ∈ wrapped.references ↔
        (name ∈ alone.references ∨ name ∈ added ∨
          (name ∈ change.secondNames ∧ name ∈ bareNames change.relations)) ∧
        name ∉ wrapping.boundNames ∧ name ∉ alone.targets := by
    rw [wrapped_eq, mem_references_withDefinitions, relations, read]
    tauto
  refine ⟨by rw [wrapped_eq]; rfl, by rw [wrapped_eq]; rfl, exact_references, ?_⟩
  constructor
  · intro onlyAdded name second relation
    by_contra uncovered
    simp only [not_or] at uncovered
    obtain ⟨free, unwritten, unadded⟩ := uncovered
    have back := (exact_references name).mpr
      ⟨Or.inr (Or.inr ⟨second, relation⟩), free, unwritten⟩
    rcases ((onlyAdded name).mp back).1 with present | present
    · exact ((read name).mp present).2.2 second
    · exact unadded present
  · intro covered name
    rw [exact_references name]
    refine and_congr_left fun outside => or_congr_right ?_
    refine ⟨fun present => present.elim id fun both => ?_, Or.inl⟩
    rcases covered name both.1 both.2 with bound | written | added
    · exact absurd bound outside.1
    · exact absurd written outside.2
    · exact added

/-- A deletion from `users`, called `x`, that reads a table `x`. -/
def deletionNamingSource : Statement :=
  .delete [] [.mk (.table [⟨"users", none⟩] (some ⟨"x", none⟩) []) []] []
    [.subquery (.mk [] (.select [] [.mk (.table [⟨"x", none⟩] none []) []] []) [] [])]

/-- Alone the deletion reads nothing; behind a named query that reads `log`, it reads `log` and its
second name. -/
theorem references_of_wrapped_deletion :
    let reads : NamedQuery :=
      .mk ⟨"c", none⟩ (.mk [] (.select [] [.mk (.table [⟨"log", none⟩] none []) []] []) [] [])
    let wrapped :=
      (ofStatement [] (.query (.mk [reads] (.change deletionNamingSource) [] []))).value
    deletionNamingSource.changesRows = true ∧
      (ofStatement [] deletionNamingSource).value.references = [] ∧
      wrapped.operation = .delete ∧ wrapped.targets = ["users"] ∧
      ∀ name, name ∈ wrapped.references ↔ name = "log" ∨ name = "x" := by
  intro reads wrapped
  have changes : deletionNamingSource.changesRows = true := rfl
  obtain ⟨operation, targets, references, _⟩ := references_of_wrapped_change [] [reads] changes
  have alone : (ofStatement [] deletionNamingSource).value =
      { operation := .delete, targets := ["users"], references := [], stage := .structured } := by
    decide +kernel
  have bound : (Query.mk [reads] (.change deletionNamingSource) [] []).boundNames = ["c"] := by
    decide +kernel
  have added : bareNames (relationsOfDefinitions [reads]) = ["log"] := by
    decide +kernel
  have relations : bareNames deletionNamingSource.relations = ["users", "x"] := by
    decide +kernel
  have second : deletionNamingSource.secondNames = ["x"] := rfl
  rw [alone] at operation targets
  refine ⟨changes, by rw [alone], operation, targets, fun name => (references name).trans ?_⟩
  rw [alone, bound, added, relations, second]
  simp only [List.not_mem_nil, List.mem_cons, or_false, false_or]
  constructor
  · rintro ⟨read, -⟩
    exact read.imp_right And.left
  · rintro (rfl | rfl) <;> decide

set_option maxRecDepth 100000 in
/-- A named query that reads nothing adds the second name of a deletion to what is read. -/
theorem wrapped_deletion_reads_second_name :
    (ofFirst? .generic "DELETE FROM t x WHERE (SELECT 1 FROM x)".toList).map references =
        some [] ∧
      (ofFirst? .generic
        "WITH c AS (SELECT 1) DELETE FROM t x WHERE (SELECT 1 FROM x)".toList).map references =
        some ["x"] := by
  decide +kernel

end Classification

/-- The stand-in for a text without statement shape binds no name. -/
theorem Sql.Grammar.boundNames_of_standIn
    {dialect : Sql.Dialect}
    {query : Sql.Query}
    {later : List Sql.Statement}
    (parsed : statements? dialect Template.standIn = some (.query query :: later)) :
    query.boundNames = [] := by
  have bindsNothing :
      (((statements? dialect Template.standIn).bind List.head?).bind Statement.query?).all
        (fun query => query.boundNames.isEmpty) = true := by
    cases dialect <;> decide +kernel
  rw [parsed] at bindsNothing
  exact List.isEmpty_iff.mp bindsNothing

namespace Classifier

/-- A name that a query binds to a query of its own is taken for a table exactly where the text is
searched for keywords: the query changes no rows, all its relations are names that it binds, and
the name stands behind a `FROM` or `JOIN` of the prepared text.  Whatever was classified before
makes no difference. -/
theorem bound_name_read_iff
    (dialect : Sql.Dialect)
    (capacity : Nat)
    (history : List (Eviction × String))
    (evict : Eviction)
    (raw : String)
    {query : Sql.Query}
    {later : List Sql.Statement}
    {name : String}
    (parsed :
      Sql.Grammar.statements? dialect (Template.prepare raw.toList).sql =
        some (.query query :: later))
    (bound : name ∈ query.boundNames) :
    name ∈ (((fresh dialect capacity).afterTexts history).classifyText
        evict raw).value.1.references ↔
      query.changesRows = false ∧ Sql.bareNames query.relations ⊆ query.boundNames ∧
        name ∈ Keyword.selectTables (Template.prepare raw.toList).sql := by
  have shaped : (Template.prepare raw.toList).isStandIn = false := by
    by_contra noShape
    have replaced : (Template.prepare raw.toList).sql = Template.standIn := by
      simp only [Template.prepare, Bool.not_eq_false, Bool.not_eq_true'] at noShape ⊢
      rw [noShape]
      rfl
    rw [replaced] at parsed
    rw [Sql.Grammar.boundNames_of_standIn parsed] at bound
    cases bound
  rw [classifyText_afterTexts, Classification.ofRaw_of_statements shaped parsed]
  exact Classification.mem_references_of_bound _ bound

set_option maxRecDepth 100000 in
/-- Where the named query reads a table, its name is not taken for one. -/
theorem bound_name_not_read :
    ∃ query, Sql.Grammar.statements? .generic
        (Template.prepare "WITH c AS (SELECT a FROM t) SELECT a FROM c".toList).sql =
          some [.query query] ∧
      "c" ∈ query.boundNames ∧
      "c" ∉ (((fresh .generic usualCapacity).afterTexts []).classifyText .oldest
        "WITH c AS (SELECT a FROM t) SELECT a FROM c").value.1.references := by
  have single : (Sql.Grammar.statements? .generic
      (Template.prepare "WITH c AS (SELECT a FROM t) SELECT a FROM c".toList).sql).map
        List.length = some 1 := by
    decide +kernel
  have checked : (((Sql.Grammar.statements? .generic
      (Template.prepare "WITH c AS (SELECT a FROM t) SELECT a FROM c".toList).sql).bind
        List.head?).bind Sql.Statement.query?).any
          (fun query => query.boundNames.contains "c" && query.ownTables == ["t"]) = true := by
    decide +kernel
  obtain ⟨query, found, holds⟩ := (Option.any_eq_true _ _).mp checked
  obtain ⟨statement, first, isQuery⟩ := Option.bind_eq_some_iff.mp found
  obtain ⟨statements, parsed, isFirst⟩ := Option.bind_eq_some_iff.mp first
  rw [parsed] at single
  obtain ⟨only, rfl⟩ := List.length_eq_one_iff.mp (Option.some_inj.mp single)
  obtain rfl := Option.some_inj.mp isFirst
  obtain rfl := Sql.Statement.eq_of_query? isQuery
  simp only [Bool.and_eq_true, List.contains_iff_mem, beq_iff_eq] at holds
  obtain ⟨bound, own⟩ := holds
  refine ⟨query, parsed, bound, fun read => ?_⟩
  have within :=
    ((bound_name_read_iff .generic usualCapacity [] .oldest _ parsed bound).mp read).2.1
  rw [Sql.Query.ownTables_eq_nil_iff.mpr within] at own
  cases own

set_option maxRecDepth 100000 in
/-- A query that reads only its own named query is found to read a table of that name. -/
theorem bound_name_read_as_table :
    Classification.ofRaw .generic "WITH c AS (SELECT 1) SELECT * FROM c" =
      { operation := .select, targets := [], references := ["c"], stage := .keywordSearch } := by
  decide +kernel

end Classifier
end TableReach
