import TableReach.Document.Basic
import TableReach.Report.Basic

/-!
# Reports as documents
-/

namespace TableReach

open Document

/-- An endpoint. -/
def Endpoint.document (endpoint : Endpoint) : Document :=
  .table
    [("http_method", .string endpoint.httpMethod), ("url_path", .string endpoint.urlPath),
      ("entry_class", .string endpoint.entryClass),
      ("entry_method", .string endpoint.entryMethod),
      ("package_name", .string endpoint.packageName)]

/-- A link. -/
def Link.document (link : Link) : Document :=
  .table
    [("endpoint", link.endpoint.document), ("table", .string link.table),
      ("crud_code", .letter link.code)]

/-- What was counted. -/
def Statistics.document (statistics : Statistics) : Document :=
  let number (value : Nat) : Document := .integer value
  .table
    [("endpoints_analyzed", number statistics.endpointsAnalyzed),
      ("endpoints_skipped", number statistics.endpointsSkipped),
      ("endpoints_without_terminals", number statistics.endpointsWithoutTerminals),
      ("endpoints_with_links", number statistics.endpointsWithLinks),
      ("distinct_tables", number statistics.distinctTables),
      ("links", number statistics.links),
      ("mappings_prepared", number statistics.mappingsPrepared),
      ("mappings_dropped", number statistics.mappingsDropped),
      ("mappings_unknown", number statistics.mappingsUnknown),
      ("graph_nodes", number statistics.graphNodes),
      ("graph_edges", number statistics.graphEdges),
      ("tier_hits", .table (statistics.tierHits.map fun hit => (hit.1.name, number hit.2)))]

/-- A dropped statement. -/
def DroppedMapping.document (dropped : DroppedMapping) : Document :=
  .table [("mapping", .string dropped.mapping), ("reason", .string dropped.reason)]

/-- A batch job. -/
def BatchJob.document (job : BatchJob) : Document :=
  .table
    [("class_name", .string job.className), ("job_name", .string job.jobName),
      ("package_name", .string job.packageName)]

/-- A report. -/
def Report.document (report : Report) : Document :=
  .table
    [("links", .list (report.links.map Link.document)),
      ("stats", report.statistics.document),
      ("dropped_mappings", .list (report.dropped.map DroppedMapping.document)),
      ("batch_jobs", .list (report.batchJobs.map BatchJob.document))]

end TableReach
