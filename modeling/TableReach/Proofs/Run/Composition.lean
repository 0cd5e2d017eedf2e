import TableReach.Proofs.Run.Accounting

/-!
# Endpoints in two parts

A run carries nothing from one endpoint to the next.  So the report of facts whose
endpoints are listed in two parts is put together from the reports of the parts: the
links follow one another, what is counted by endpoint adds up, and the rest, which is
about statements and calls, is the same three times.
-/

namespace TableReach
namespace Report

/-- Two reports agree on everything that is not about endpoints. -/
structure AgreesOnFacts (first second : Report) : Prop where
  /-- The same number of statements is prepared. -/
  prepared_eq : first.statistics.mappingsPrepared = second.statistics.mappingsPrepared
  /-- The same number of statements is dropped. -/
  droppedCount_eq : first.statistics.mappingsDropped = second.statistics.mappingsDropped
  /-- The same number of statements is of no known operation. -/
  unknown_eq : first.statistics.mappingsUnknown = second.statistics.mappingsUnknown
  /-- The graph has the same number of methods. -/
  nodes_eq : first.statistics.graphNodes = second.statistics.graphNodes
  /-- The graph has the same number of calls. -/
  edges_eq : first.statistics.graphEdges = second.statistics.graphEdges
  /-- The same statements are dropped for the same reasons. -/
  dropped_eq : first.dropped = second.dropped
  /-- The batch jobs are the same. -/
  batchJobs_eq : first.batchJobs = second.batchJobs
  /-- Hits are counted for the same tiers in the same order. -/
  tiers_eq :
    first.statistics.tierHits.map Prod.fst = second.statistics.tierHits.map Prod.fst

/-- A report is put together from the reports of two parts of the endpoints. -/
structure Joins (front back whole : Report) : Prop where
  /-- The links of the first part come before those of the second. -/
  links_eq : whole.links = front.links ++ back.links
  /-- The analysed endpoints add up. -/
  analyzed_add :
    whole.statistics.endpointsAnalyzed =
      front.statistics.endpointsAnalyzed + back.statistics.endpointsAnalyzed
  /-- The skipped endpoints add up. -/
  skipped_add :
    whole.statistics.endpointsSkipped =
      front.statistics.endpointsSkipped + back.statistics.endpointsSkipped
  /-- The endpoints that reach nothing add up. -/
  withoutTerminals_add :
    whole.statistics.endpointsWithoutTerminals =
      front.statistics.endpointsWithoutTerminals + back.statistics.endpointsWithoutTerminals
  /-- The numbers of links add up. -/
  linkCount_add :
    whole.statistics.links = front.statistics.links + back.statistics.links
  /-- The hits add up tier by tier. -/
  hits_add :
    whole.statistics.tierHits.map Prod.snd =
      List.zipWith (· + ·) (front.statistics.tierHits.map Prod.snd)
        (back.statistics.tierHits.map Prod.snd)
  /-- The first part has nothing else of its own. -/
  front_agrees : front.AgreesOnFacts whole
  /-- Nor has the second. -/
  back_agrees : back.AgreesOnFacts whole

end Report

namespace Engine

theorem map_snd_totalHits_append
    (tiers : List Tier)
    (front back : List Match) :
    (totalHits tiers (front ++ back)).map Prod.snd =
      List.zipWith (· + ·) ((totalHits tiers front).map Prod.snd)
        ((totalHits tiers back).map Prod.snd) := by
  simp [totalHits, Function.comp_def, List.zipWith_map, List.zipWith_self]

theorem analyzed_append
    (engine : Engine)
    (facts : Facts)
    (front back : List Endpoint) :
    engine.analyzed { facts with endpoints := front ++ back } =
      engine.analyzed { facts with endpoints := front } ++
        engine.analyzed { facts with endpoints := back } := by
  simp [analyzed]

theorem results_append
    (engine : Engine)
    (facts : Facts)
    (mappings : List Mapping)
    (front back : List Endpoint) :
    engine.results { facts with endpoints := front ++ back } mappings =
      engine.results { facts with endpoints := front } mappings ++
        engine.results { facts with endpoints := back } mappings := by
  rw [results, analyzed_append, List.map_append]
  rfl

/-- Concluding from what is found for two parts of the endpoints joins the two reports. -/
theorem joins_conclude
    (engine : Engine)
    (facts : Facts)
    (graph : CallGraph)
    (preparation : Preparation)
    (front back : List Endpoint)
    (frontResults backResults : List (Option Match)) :
    Report.Joins
      (engine.conclude { facts with endpoints := front } graph preparation frontResults)
      (engine.conclude { facts with endpoints := back } graph preparation backResults)
      (engine.conclude { facts with endpoints := front ++ back } graph preparation
        (frontResults ++ backResults)) := by
  have frontLe := length_analyzed_le engine { facts with endpoints := front }
  have backLe := length_analyzed_le engine { facts with endpoints := back }
  have agrees (part : List Endpoint) (results : List (Option Match)) :
      Report.AgreesOnFacts
        (engine.conclude { facts with endpoints := part } graph preparation results)
        (engine.conclude { facts with endpoints := front ++ back } graph preparation
          (frontResults ++ backResults)) :=
    { prepared_eq := rfl
      droppedCount_eq := rfl
      unknown_eq := rfl
      nodes_eq := rfl
      edges_eq := rfl
      dropped_eq := rfl
      batchJobs_eq := rfl
      tiers_eq := by simp only [conclude, map_fst_totalHits] }
  refine
    { links_eq := ?_, analyzed_add := ?_, skipped_add := ?_, withoutTerminals_add := ?_,
      linkCount_add := ?_, hits_add := ?_,
      front_agrees := agrees front frontResults
      back_agrees := agrees back backResults }
  · simp [conclude]
  · simp [conclude, analyzed_append]
  · -- Skipped are those that are left over, so no part may analyse more than it has.
    simp only [conclude, analyzed_append, List.length_append] at frontLe backLe ⊢
    omega
  · simp [conclude]
  · simp [conclude]
  · simp only [conclude, List.filterMap_append]
    exact map_snd_totalHits_append _ _ _

/-- The report of a run is joined from the reports of two parts of the endpoints. -/
theorem joins_run
    (settings : Settings)
    (evict frontEvict backEvict : Eviction)
    (facts : Facts)
    (front back : List Endpoint) :
    Report.Joins
      ((ofSettings settings).run frontEvict { facts with endpoints := front }).value.1
      ((ofSettings settings).run backEvict { facts with endpoints := back }).value.1
      ((ofSettings settings).run evict { facts with endpoints := front ++ back }).value.1 := by
  rw [run_ofSettings, run_ofSettings, run_ofSettings, results_append]
  exact joins_conclude _ facts _ _ front back _ _

/-- The links of a run are those that each endpoint has alone. -/
theorem links_run_eq_flatMap
    (settings : Settings)
    (evict other : Eviction)
    (facts : Facts)
    (endpoints : List Endpoint) :
    ((ofSettings settings).run evict { facts with endpoints := endpoints }).value.1.links =
      endpoints.flatMap fun endpoint =>
        ((ofSettings settings).run other { facts with endpoints := [endpoint] }).value.1.links := by
  induction endpoints with
  | nil =>
      rw [run_ofSettings]
      rfl
  | cons endpoint others inductionHypothesis =>
      have joined := (joins_run settings evict other evict facts [endpoint] others).links_eq
      rw [List.singleton_append] at joined
      rw [joined, inductionHypothesis, List.flatMap_cons]

/-- A run is composed over its endpoints.  Where the endpoints of some facts are listed in two
parts, the report is joined from the reports of the parts, and its links are those that each
endpoint has when it is the only one. -/
theorem run_composed
    (settings : Settings)
    (evict frontEvict backEvict singleEvict : Eviction)
    (facts : Facts)
    (front back : List Endpoint) :
    let report (evict : Eviction) (endpoints : List Endpoint) : Report :=
      ((ofSettings settings).run evict { facts with endpoints := endpoints }).value.1
    Report.Joins (report frontEvict front) (report backEvict back)
        (report evict (front ++ back)) ∧
      (report evict (front ++ back)).links =
        (front ++ back).flatMap fun endpoint => (report singleEvict [endpoint]).links := by
  intro report
  exact ⟨joins_run settings evict frontEvict backEvict facts front back,
    links_run_eq_flatMap settings evict singleEvict facts (front ++ back)⟩

end Engine
end TableReach
