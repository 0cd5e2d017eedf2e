import TableReach.CallGraph.Reach
import TableReach.Run.Preparation
import TableReach.Settings.Basic

/-!
# Runs

An engine analyses facts: it prepares the statements, builds the call graph,
follows the calls of each endpoint that its settings admit, and matches what they
reach with the statements.  Between runs it keeps what it has classified.
-/

namespace TableReach

/-- What a run is made with. -/
structure Engine where
  /-- The classifier of statements. -/
  classifier : Classifier
  /-- How calls are followed. -/
  search : Search
  /-- How statements are matched. -/
  matcher : Matcher
  /-- Which packages are analysed. -/
  packages : PackageFilter

namespace Engine

/-- The engine of some settings. -/
def ofSettings (settings : Settings) : Engine where
  classifier := Classifier.fresh settings.dialect Classifier.usualCapacity
  search := { convention := settings.convention, maxDepth := settings.maxDepth }
  matcher := Matcher.without settings.disabled settings.convention
  packages := settings.packages

/-- What is found for one endpoint; nothing if it reaches no method of the data-access layer. -/
def analyze
    (engine : Engine)
    (graph : CallGraph)
    (mappings : List Mapping)
    (endpoint : Endpoint) : Logged (Option Match) := do
  let reach ← engine.search.run graph endpoint.entryId
  let terminals := reach.terminals engine.search.convention
  if terminals.isEmpty then
    Logged.leave .debug "no data-access layer reached"
      [("endpoint", endpoint.display), ("visited", toString reach.visited)]
    return none
  return some (← engine.matcher.run endpoint mappings terminals)

/-- What is found for each endpoint. -/
def analyzeAll
    (engine : Engine)
    (graph : CallGraph)
    (mappings : List Mapping) : List Endpoint → Logged (List (Option Match))
  | [] => return []
  | endpoint :: others => do
      let first ← engine.analyze graph mappings endpoint
      return first :: (← analyzeAll engine graph mappings others)

/-- The event of an endpoint that is not analysed. -/
def skipEvent (endpoint : Endpoint) : Event :=
  { level := .debug, message := "endpoint filtered out",
    fields := [("endpoint", endpoint.display), ("package", endpoint.packageName)] }

/-- How many statements each active tier claimed over all endpoints. -/
def totalHits (tiers : List Tier) (found : List Match) : List (Tier × Nat) :=
  let claimed := (found.flatMap Match.claims).map Claimed.tier
  tiers.eraseDups.map fun tier => (tier, claimed.count tier)

/-- The endpoints whose package is analysed, with the method of the protocol in upper case. -/
def analyzed (engine : Engine) (facts : Facts) : List Endpoint :=
  (facts.endpoints.filter fun endpoint =>
    engine.packages.admits endpoint.packageName).map Endpoint.normalize

/-- The endpoints whose package is left out. -/
def skipped (engine : Engine) (facts : Facts) : List Endpoint :=
  facts.endpoints.filter fun endpoint => !engine.packages.admits endpoint.packageName

/-- The report of what was found for each analysed endpoint. -/
def conclude
    (engine : Engine)
    (facts : Facts)
    (graph : CallGraph)
    (preparation : Preparation)
    (results : List (Option Match)) : Report :=
  let found := results.filterMap id
  let links := found.flatMap Match.links
  let endpoints := engine.analyzed facts
  { links := links
    statistics :=
      { endpointsAnalyzed := endpoints.length
        endpointsSkipped := facts.endpoints.length - endpoints.length
        endpointsWithoutTerminals := (results.filter Option.isNone).length
        endpointsWithLinks := (links.map Link.endpoint).eraseDups.length
        distinctTables := (links.map Link.table).eraseDups.length
        links := links.length
        mappingsPrepared := preparation.known.length
        mappingsDropped := preparation.dropped.length
        mappingsUnknown :=
          facts.mappings.length - preparation.dropped.length - preparation.known.length
        graphNodes := graph.nodeCount
        graphEdges := graph.edgeCount
        tierHits := totalHits engine.matcher.tiers found }
    dropped := preparation.dropped
    batchJobs := facts.batchJobs }

/-- Analyse facts whose statements are prepared. -/
def report (engine : Engine) (facts : Facts) (preparation : Preparation) : Logged Report := do
  let graph ← CallGraph.build facts.callEdges
  Logged.leaveAll ((engine.skipped facts).map skipEvent)
  let results ← engine.analyzeAll graph preparation.known (engine.analyzed facts)
  let report := engine.conclude facts graph preparation results
  let statistics := report.statistics
  Logged.leave .info "CRUD resolution finished"
    [("endpoints", toString statistics.endpointsAnalyzed),
      ("mappings", toString statistics.mappingsPrepared), ("links", toString statistics.links),
      ("tables", toString statistics.distinctTables),
      ("endpoints_with_links", toString statistics.endpointsWithLinks)]
  if report.isEmpty then Logged.leave .warn "no CRUD links produced" []
  return report

/-- Analyse facts. -/
def run (evict : Eviction) (engine : Engine) (facts : Facts) : Logged (Report × Engine) := do
  let (preparation, classifier) ← Preparation.run evict engine.classifier facts.mappings
  let report ← engine.report facts preparation
  return (report, { engine with classifier := classifier })

end Engine
end TableReach
