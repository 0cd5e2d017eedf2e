import TableReach.Proofs.Classification.Coherence
import TableReach.Proofs.Run.Report

/-!
# Preparation without a cache

What the preparation of a statement gives depends on the statement and the dialect
alone.  `Mapping.outcome` says what it is, and `Mapping.Completes` says it field by
field: given values win over classified ones.  A coherent classifier gives it, for one
statement and for a list of them, and is coherent afterwards.
-/

namespace TableReach
namespace Mapping

/-- What the preparation of a statement gives: what is missing comes from its text, and without a
text it fails. -/
def outcome
    (dialect : Sql.Dialect)
    (mapping : Mapping) : Except Failure Mapping :=
  if mapping.needsClassification then
    match mapping.rawText with
    | none => .error .absentStatement
    | some text => .ok (mapping.complete (Classification.ofRaw dialect text)).namedTables
  else .ok mapping.namedTables

/-- A statement has a text, in which a value is found. -/
def Finds
    (source : Mapping)
    (read : String → α)
    (value : α) : Prop :=
  ∃ text, source.rawText = some text ∧ value = read text

/-- A statement is completed: what is given stands, and what is missing is found in its text. -/
structure Completes
    (dialect : Sql.Dialect)
    (source prepared : Mapping) : Prop where
  /-- The owner stands. -/
  owner_eq : prepared.owner = source.owner
  /-- The name stands. -/
  operationId_eq : prepared.operationId = source.operationId
  /-- The text stands. -/
  rawText_eq : prepared.rawText = source.rawText
  /-- A given operation stands. -/
  operation_given : source.operation ≠ .unknown → prepared.operation = source.operation
  /-- A missing operation is found in the text. -/
  operation_found :
    source.operation = .unknown →
      source.Finds (fun text => (Classification.ofRaw dialect text).operation) prepared.operation
  /-- Given tables stand, those with a name and each once. -/
  tables_given :
    source.tables ≠ [] → prepared.tables = (source.tables.filter (· ≠ "")).eraseDups
  /-- Missing tables are found in the text. -/
  tables_found :
    source.tables = [] →
      source.Finds
        (fun text => ((Classification.ofRaw dialect text).tables.filter (· ≠ "")).eraseDups)
        prepared.tables

theorem Finds.unique
    {source : Mapping}
    {read : String → α}
    {first second : α}
    (one : source.Finds read first)
    (other : source.Finds read second) : first = second := by
  obtain ⟨text, written, rfl⟩ := one
  obtain ⟨again, same, rfl⟩ := other
  rw [Option.some.inj (written.symm.trans same)]

theorem Finds.rawText_ne_none
    {source : Mapping}
    {read : String → α}
    {value : α}
    (found : source.Finds read value) : source.rawText ≠ none := by
  obtain ⟨text, written, _⟩ := found
  simp [written]

theorem needsClassification_iff (source : Mapping) :
    source.needsClassification = true ↔ source.operation = .unknown ∨ source.tables = [] := by
  simp [needsClassification]

theorem tables_namedTables (mapping : Mapping) :
    mapping.namedTables.tables = (mapping.tables.filter (· ≠ "")).eraseDups := by
  have named (table : String) : (!table.isEmpty) = decide (table ≠ "") := by
    rw [Bool.eq_iff_iff]
    simp
  simp only [namedTables, named]

/-- Of a statement with a text, given values win over classified ones. -/
theorem completes_namedTables_complete
    {dialect : Sql.Dialect}
    {source : Mapping}
    {text : String}
    (written : source.rawText = some text) :
    source.Completes dialect
      (source.complete (Classification.ofRaw dialect text)).namedTables where
  owner_eq := rfl
  operationId_eq := rfl
  rawText_eq := rfl
  operation_given given := by simp [namedTables, complete, given]
  operation_found missing := ⟨text, written, by simp [namedTables, complete, missing]⟩
  tables_given given := by simp [tables_namedTables, complete, given]
  tables_found missing := ⟨text, written, by simp [tables_namedTables, complete, missing]⟩

/-- A statement of which nothing is missing is completed by its own values. -/
theorem completes_namedTables
    (dialect : Sql.Dialect)
    {source : Mapping}
    (given : source.needsClassification = false) :
    source.Completes dialect source.namedTables := by
  rw [← Bool.not_eq_true, needsClassification_iff, not_or] at given
  exact
    { owner_eq := rfl
      operationId_eq := rfl
      rawText_eq := rfl
      operation_given := fun _ => rfl
      operation_found := fun missing => absurd missing given.1
      tables_given := fun _ => tables_namedTables source
      tables_found := fun missing => absurd missing given.2 }

/-- There is one way to complete a statement. -/
theorem Completes.unique
    {dialect : Sql.Dialect}
    {source first second : Mapping}
    (one : source.Completes dialect first)
    (other : source.Completes dialect second) : first = second := by
  have operations : first.operation = second.operation := by
    by_cases missing : source.operation = .unknown
    · exact (one.operation_found missing).unique (other.operation_found missing)
    · rw [one.operation_given missing, other.operation_given missing]
  have tables : first.tables = second.tables := by
    by_cases missing : source.tables = []
    · exact (one.tables_found missing).unique (other.tables_found missing)
    · rw [one.tables_given missing, other.tables_given missing]
  have owners := one.owner_eq.trans other.owner_eq.symm
  have names := one.operationId_eq.trans other.operationId_eq.symm
  have texts := one.rawText_eq.trans other.rawText_eq.symm
  cases first
  cases second
  simp_all only

/-- A statement is dropped exactly if something is missing and there is no text to find it in. -/
theorem outcome_eq_error_iff
    {dialect : Sql.Dialect}
    {source : Mapping}
    {failure : Failure} :
    source.outcome dialect = .error failure ↔
      (source.operation = .unknown ∨ source.tables = []) ∧ source.rawText = none ∧
        failure = .absentStatement := by
  rw [← needsClassification_iff, outcome]
  cases source.needsClassification with
  | false => simp
  | true =>
      cases source.rawText with
      | none => simp [eq_comm]
      | some text => simp

/-- A statement is prepared exactly if it can be completed, and as it is completed. -/
theorem outcome_eq_ok_iff
    {dialect : Sql.Dialect}
    {source prepared : Mapping} :
    source.outcome dialect = .ok prepared ↔ source.Completes dialect prepared := by
  have sound {result : Mapping} (success : source.outcome dialect = .ok result) :
      source.Completes dialect result := by
    unfold outcome at success
    split at success
    · cases written : source.rawText with
      | none =>
          rw [written] at success
          cases success
      | some text =>
          rw [written] at success
          exact Except.ok.inj success ▸ completes_namedTables_complete written
    · next given =>
        rw [Bool.not_eq_true] at given
        exact Except.ok.inj success ▸ completes_namedTables dialect given
  refine ⟨sound, fun completes => ?_⟩
  cases result : source.outcome dialect with
  | error failure =>
      -- What is missing of a completed statement is found in a text.
      obtain ⟨missing, unwritten, _⟩ := outcome_eq_error_iff.mp result
      rcases missing with missing | missing
      · exact absurd unwritten (completes.operation_found missing).rawText_ne_none
      · exact absurd unwritten (completes.tables_found missing).rawText_ne_none
  | ok other => rw [(sound result).unique completes]

variable {classifier : Classifier}

/-- Preparing a statement classifies its text, where something is missing and there is a text, and
else leaves the classifier alone. -/
theorem prepare_cases
    (evict : Eviction)
    (classifier : Classifier)
    (mapping : Mapping) :
    (∃ text, mapping.needsClassification = true ∧ mapping.rawText = some text ∧
        (mapping.prepare evict classifier).value =
          (.ok (mapping.complete (classifier.classifyText evict text).value.1).namedTables,
            (classifier.classifyText evict text).value.2)) ∨
      (mapping.prepare evict classifier).value =
        (mapping.outcome classifier.dialect, classifier) := by
  unfold prepare outcome
  split
  · next needed =>
      simp only [Logged.value_bind, Classifier.classify]
      cases mapping.rawText with
      | none => exact Or.inr rfl
      | some text => exact Or.inl ⟨text, needed, rfl, rfl⟩
  · exact Or.inr rfl

/-- A coherent classifier prepares a statement as if it had classified nothing. -/
theorem prepare_fst
    (coherent : classifier.Coherent)
    (evict : Eviction)
    (mapping : Mapping) :
    (mapping.prepare evict classifier).value.1 = mapping.outcome classifier.dialect := by
  rcases prepare_cases evict classifier mapping with ⟨text, needed, isText, equal⟩ | equal
  · rw [equal, outcome, if_pos needed, isText, coherent.classifyText_fst]
  · rw [equal]

theorem dialect_prepare
    (evict : Eviction)
    (classifier : Classifier)
    (mapping : Mapping) :
    (mapping.prepare evict classifier).value.2.dialect = classifier.dialect := by
  rcases prepare_cases evict classifier mapping with ⟨text, _, _, equal⟩ | equal
  · rw [equal, Classifier.dialect_classifyText]
  · rw [equal]

/-- Preparing a statement keeps a classifier coherent. -/
theorem prepare_snd
    (coherent : classifier.Coherent)
    (evict : Eviction)
    (mapping : Mapping) : (mapping.prepare evict classifier).value.2.Coherent := by
  rcases prepare_cases evict classifier mapping with ⟨text, _, _, equal⟩ | equal
  · rw [equal]
    exact coherent.classifyText_snd evict text
  · rw [equal]
    exact coherent

/-- Preparing statements keeps the dialect of a classifier. -/
theorem dialect_prepareAll
    (evict : Eviction)
    (classifier : Classifier)
    (mappings : List Mapping) :
    (prepareAll evict classifier mappings).value.2.dialect = classifier.dialect := by
  induction mappings generalizing classifier with
  | nil => rfl
  | cons mapping others inductionHypothesis =>
      simp only [prepareAll, Logged.value_bind, Logged.value_pure]
      rw [inductionHypothesis, dialect_prepare]

/-- Every statement has its outcome. -/
theorem length_prepareAll
    (evict : Eviction)
    (classifier : Classifier)
    (mappings : List Mapping) :
    (prepareAll evict classifier mappings).value.1.length = mappings.length := by
  induction mappings generalizing classifier with
  | nil => rfl
  | cons mapping others inductionHypothesis =>
      simp only [prepareAll, Logged.value_bind, Logged.value_pure, List.length_cons]
      rw [inductionHypothesis]

/-- A coherent classifier prepares each statement of a list as if it had classified nothing. -/
theorem prepareAll_fst
    (coherent : classifier.Coherent)
    (evict : Eviction)
    (mappings : List Mapping) :
    (prepareAll evict classifier mappings).value.1 =
      mappings.map (outcome classifier.dialect) := by
  induction mappings generalizing classifier with
  | nil => rfl
  | cons mapping others inductionHypothesis =>
      simp only [prepareAll, Logged.value_bind, Logged.value_pure, List.map_cons]
      rw [prepare_fst coherent, inductionHypothesis (prepare_snd coherent evict mapping),
        dialect_prepare]

end Mapping

/-- Statements that are each prepared on its own, and sorted. -/
def Preparation.ofSources
    (dialect : Sql.Dialect)
    (sources : List Mapping) : Preparation :=
  ofOutcomes sources (sources.map (Mapping.outcome dialect))

/-- A coherent classifier prepares statements as if each were the only one. -/
theorem Preparation.run_fst
    {classifier : Classifier}
    (coherent : classifier.Coherent)
    (evict : Eviction)
    (sources : List Mapping) :
    (run evict classifier sources).value.1 = ofSources classifier.dialect sources := by
  simp only [run, Logged.value_bind, Logged.value_pure, ofSources,
    Mapping.prepareAll_fst coherent]

namespace Engine

/-- The report of facts whose statements were prepared with these outcomes. -/
def reportOf
    (engine : Engine)
    (facts : Facts)
    (outcomes : List (Except Failure Mapping)) : Report :=
  (engine.report facts (Preparation.ofOutcomes facts.mappings outcomes)).value

/-- The report that an engine gives of facts if it has classified nothing before. -/
def plainReport
    (engine : Engine)
    (facts : Facts) : Report :=
  engine.reportOf facts (facts.mappings.map (Mapping.outcome engine.classifier.dialect))

/-- A run of a coherent engine gives the report of an engine that has classified nothing. -/
theorem run_fst
    {engine : Engine}
    (coherent : engine.classifier.Coherent)
    (evict : Eviction)
    (facts : Facts) : (engine.run evict facts).value.1 = engine.plainReport facts := by
  simp only [run, Preparation.run, Logged.value_bind, Logged.value_pure, plainReport, reportOf]
  rw [Mapping.prepareAll_fst coherent]

/-- The report of a run is concluded from what each statement gives on its own and from what is
found for each endpoint on its own. -/
theorem run_ofSettings
    (settings : Settings)
    (evict : Eviction)
    (facts : Facts) :
    ((ofSettings settings).run evict facts).value.1 =
      (ofSettings settings).conclude facts (CallGraph.ofEdges facts.callEdges)
        (Preparation.ofSources settings.dialect facts.mappings)
        ((ofSettings settings).results facts
          (Preparation.ofSources settings.dialect facts.mappings).known) := by
  rw [run_fst (Classifier.Coherent.fresh _ _), plainReport, reportOf, value_report]
  rfl

/-- A report does not depend on the classifier once the statements are prepared. -/
theorem reportOf_classifier
    (engine : Engine)
    (classifier : Classifier)
    (facts : Facts)
    (outcomes : List (Except Failure Mapping)) :
    ({ engine with classifier := classifier } : Engine).reportOf facts outcomes =
      engine.reportOf facts outcomes := by
  rw [reportOf, reportOf, value_report, value_report]
  rfl

end Engine
end TableReach
