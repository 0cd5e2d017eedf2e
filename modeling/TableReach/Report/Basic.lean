import TableReach.Matching.Matcher

/-!
# Reports

The result of a run: the links, what was counted on the way, the statements that
were dropped, and the batch jobs.
-/

namespace TableReach

/-- A statement that could not be prepared. -/
structure DroppedMapping where
  /-- The identifier of the statement. -/
  mapping : MethodId
  /-- Why it was dropped. -/
  reason : String
deriving DecidableEq

/-- What was counted in a run. -/
structure Statistics where
  endpointsAnalyzed : Nat
  endpointsSkipped : Nat
  endpointsWithoutTerminals : Nat
  endpointsWithLinks : Nat
  distinctTables : Nat
  links : Nat
  mappingsPrepared : Nat
  mappingsDropped : Nat
  mappingsUnknown : Nat
  graphNodes : Nat
  graphEdges : Nat
  tierHits : List (Tier × Nat)
deriving DecidableEq

/-- The result of a run. -/
structure Report where
  links : List Link
  statistics : Statistics
  dropped : List DroppedMapping
  batchJobs : List BatchJob
deriving DecidableEq

namespace Report

/-- The tables of the links, each once. -/
def tables (report : Report) : List String :=
  (report.links.map Link.table).eraseDups

/-- The endpoints of the links, each once. -/
def endpoints (report : Report) : List Endpoint :=
  (report.links.map Link.endpoint).eraseDups

/-- There is no link. -/
def isEmpty (report : Report) : Bool :=
  report.links.isEmpty

end Report
end TableReach
