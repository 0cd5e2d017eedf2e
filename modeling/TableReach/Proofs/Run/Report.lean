import TableReach.Run.Engine

/-!
# Reports without events

A run leaves events between its steps.  Without them, endpoints are analysed each on
its own, and a report is concluded from what was found for each of them.
-/

namespace TableReach
namespace Engine

/-- What is found for each analysed endpoint. -/
def results
    (engine : Engine)
    (facts : Facts)
    (mappings : List Mapping) : List (Option Match) :=
  (engine.analyzed facts).map fun endpoint =>
    (engine.analyze (CallGraph.ofEdges facts.callEdges) mappings endpoint).value

/-- Each endpoint is analysed on its own. -/
theorem value_analyzeAll
    (engine : Engine)
    (graph : CallGraph)
    (mappings : List Mapping)
    (endpoints : List Endpoint) :
    (engine.analyzeAll graph mappings endpoints).value =
      endpoints.map fun endpoint => (engine.analyze graph mappings endpoint).value := by
  induction endpoints with
  | nil => rfl
  | cons endpoint others inductionHypothesis =>
      simp only [analyzeAll, Logged.value_bind, Logged.value_pure, List.map_cons]
      rw [inductionHypothesis]

/-- A report is concluded from what is found for each analysed endpoint. -/
theorem value_report
    (engine : Engine)
    (facts : Facts)
    (preparation : Preparation) :
    (engine.report facts preparation).value =
      engine.conclude facts (CallGraph.ofEdges facts.callEdges) preparation
        (engine.results facts preparation.known) := by
  rw [results, ← value_analyzeAll]
  simp only [report, Logged.value_bind]
  split <;> rfl

/-- Something that every match has, gathered over the analysed endpoints. -/
theorem flatMap_found
    (engine : Engine)
    (facts : Facts)
    (mappings : List Mapping)
    (part : Match → List α) :
    ((engine.results facts mappings).filterMap id).flatMap part =
      (engine.analyzed facts).flatMap fun endpoint =>
        (engine.analyze (CallGraph.ofEdges facts.callEdges) mappings
          endpoint).value.toList.flatMap part := by
  unfold results
  induction engine.analyzed facts with
  | nil => rfl
  | cons endpoint others inductionHypothesis =>
      rw [List.flatMap_cons, ← inductionHypothesis, List.map_cons, List.filterMap_cons]
      cases (engine.analyze (CallGraph.ofEdges facts.callEdges) mappings endpoint).value with
      | none => rfl
      | some found => simp

end Engine
end TableReach
