import TableReach.Proofs.Run.Preparation
import Mathlib.Data.List.Basic

/-!
# Statements that are dropped

A statement is dropped if something has to be found out from its text and it has
none.  Nothing else makes a preparation fail, whatever the text says, and a statement
that is dropped touches nothing but its own entry and the count of such entries: the
report of the facts without it is the same in everything else.
-/

namespace TableReach
namespace Mapping

/-- The operation or the tables of a statement would have to come from its text, and it has none. -/
def LacksText (mapping : Mapping) : Prop :=
  mapping.rawText = none ∧ (mapping.operation = .unknown ∨ mapping.tables = [])

instance : DecidablePred LacksText := fun mapping =>
  inferInstanceAs
    (Decidable (mapping.rawText = none ∧ (mapping.operation = .unknown ∨ mapping.tables = [])))

theorem outcome_of_lacksText
    (dialect : Sql.Dialect)
    {mapping : Mapping}
    (lacks : mapping.LacksText) : mapping.outcome dialect = .error .absentStatement :=
  outcome_eq_error_iff.mpr ⟨lacks.2, lacks.1, rfl⟩

/-- Every other statement can be prepared. -/
theorem exists_outcome_of_not_lacksText
    (dialect : Sql.Dialect)
    {mapping : Mapping}
    (complete : ¬ mapping.LacksText) :
    ∃ prepared, mapping.outcome dialect = .ok prepared := by
  cases failed : mapping.outcome dialect with
  | error failure =>
      obtain ⟨missing, unwritten, _⟩ := outcome_eq_error_iff.mp failed
      exact absurd ⟨unwritten, missing⟩ complete
  | ok prepared => exact ⟨prepared, rfl⟩

/-- The entry of a statement that is dropped. -/
def droppedEntry (mapping : Mapping) : DroppedMapping :=
  { mapping := mapping.qualifiedId, reason := Failure.absentStatement.label }

end Mapping

namespace Preparation

variable
  (dialect : Sql.Dialect)
  (sources : List Mapping)

/-- Dropped are the statements that lack their text, in order. -/
theorem dropped_ofSources :
    (ofSources dialect sources).dropped =
      (sources.filter fun source => source.LacksText).map Mapping.droppedEntry := by
  induction sources with
  | nil => rfl
  | cons source others inductionHypothesis =>
      simp only [ofSources, ofOutcomes, List.map_cons, List.zipWith_cons_cons, List.filterMap_cons,
        id_eq] at inductionHypothesis ⊢
      by_cases lacks : source.LacksText
      · rw [Mapping.outcome_of_lacksText dialect lacks, List.filter_cons_of_pos (by simpa),
          List.map_cons, ← inductionHypothesis]
        rfl
      · obtain ⟨prepared, success⟩ := Mapping.exists_outcome_of_not_lacksText dialect lacks
        rw [success, List.filter_cons_of_neg (by simpa), ← inductionHypothesis]
        rfl

/-- Without the statements that lack their text, the same statements are prepared. -/
theorem filterMap_outcome_filter :
    ((sources.filter fun source => ¬ source.LacksText).map (Mapping.outcome dialect)).filterMap
        Except.toOption =
      (sources.map (Mapping.outcome dialect)).filterMap Except.toOption := by
  induction sources with
  | nil => rfl
  | cons source others inductionHypothesis =>
      rw [List.map_cons, List.filterMap_cons]
      by_cases lacks : source.LacksText
      · rw [Mapping.outcome_of_lacksText dialect lacks, List.filter_cons_of_neg (by simpa),
          inductionHypothesis]
        rfl
      · obtain ⟨prepared, success⟩ := Mapping.exists_outcome_of_not_lacksText dialect lacks
        rw [List.filter_cons_of_pos (by simpa), List.map_cons, List.filterMap_cons,
          inductionHypothesis, success]

/-- Without the statements that lack their text, a preparation differs in its dropped statements
alone. -/
theorem ofSources_filter :
    ofSources dialect (sources.filter fun source => ¬ source.LacksText) =
      { ofSources dialect sources with dropped := [] } := by
  have none : (ofSources dialect (sources.filter fun source => ¬ source.LacksText)).dropped =
      [] := by
    rw [dropped_ofSources, List.filter_filter, List.map_eq_nil_iff, List.filter_eq_nil_iff]
    simp
  rw [← none]
  simp only [ofSources, ofOutcomes, filterMap_outcome_filter]

end Preparation

namespace Engine

/-- Concluding without the statements that lack their text gives the same report but for the
dropped statements and their number. -/
theorem conclude_filter
    (engine : Engine)
    (facts : Facts)
    (graph : CallGraph)
    (results : List (Option Match))
    {preparation : Preparation}
    (dropped : preparation.dropped =
      (facts.mappings.filter fun mapping => mapping.LacksText).map Mapping.droppedEntry) :
    engine.conclude
        { facts with mappings := facts.mappings.filter fun mapping => ¬ mapping.LacksText }
        graph { preparation with dropped := [] } results =
      { engine.conclude facts graph preparation results with
        dropped := []
        statistics :=
          { (engine.conclude facts graph preparation results).statistics with
            mappingsDropped := 0 } } := by
  -- The statements of no known operation are counted by what is left over, so the run without
  -- the dropped statements has to start from as many fewer.
  have lengths : (facts.mappings.filter fun mapping => ¬ mapping.LacksText).length =
      facts.mappings.length - preparation.dropped.length := by
    have parts : facts.mappings.length = _ :=
      List.length_eq_length_filter_add fun mapping : Mapping => decide mapping.LacksText
    rw [dropped, List.length_map]
    simp only [decide_not]
    omega
  simp only [conclude, List.length_nil, Nat.sub_zero, lengths]
  rfl

/-- A run isolates the statements that it drops.  They are exactly those that lack their text, in
the order of the facts and by their identifiers.  A run without them gives the same report: the
same links in the same order, the same batch jobs and the same counts but that of the dropped
statements.  No statement decides about another: each is prepared as if it were the only one, and
its preparation fails only if it lacks its own text. -/
theorem dropped_isolated
    (settings : Settings)
    (evict other : Eviction)
    (facts : Facts) :
    let engine := ofSettings settings
    let report := (engine.run evict facts).value.1
    let complete := facts.mappings.filter fun mapping => ¬ mapping.LacksText
    report.dropped =
        (facts.mappings.filter fun mapping => mapping.LacksText).map Mapping.droppedEntry ∧
      (engine.run other { facts with mappings := complete }).value.1 =
        { report with
          dropped := []
          statistics := { report.statistics with mappingsDropped := 0 } } ∧
      (Mapping.prepareAll evict engine.classifier facts.mappings).value.1 =
        facts.mappings.map (fun mapping => (mapping.prepare other engine.classifier).value.1) ∧
      ∀ mapping : Mapping,
        (∃ prepared, (mapping.prepare other engine.classifier).value.1 = .ok prepared) ↔
          ¬ mapping.LacksText := by
  intro engine report complete
  have coherent : engine.classifier.Coherent := Classifier.Coherent.fresh _ _
  have dropped := Preparation.dropped_ofSources settings.dialect facts.mappings
  have reported : report = _ := run_ofSettings settings evict facts
  refine ⟨?_, ?_, ?_, ?_⟩
  · rw [reported]
    exact dropped
  · rw [run_ofSettings, Preparation.ofSources_filter, reported]
    exact conclude_filter engine facts _ _ dropped
  · simp only [Mapping.prepareAll_fst coherent, Mapping.prepare_fst coherent]
  · intro mapping
    rw [Mapping.prepare_fst coherent]
    constructor
    · rintro ⟨prepared, success⟩ lacks
      rw [Mapping.outcome_of_lacksText _ lacks] at success
      exact nomatch success
    · exact Mapping.exists_outcome_of_not_lacksText _

end Engine
end TableReach
