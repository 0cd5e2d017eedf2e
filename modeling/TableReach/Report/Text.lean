import TableReach.Report.Basic
import TableReach.Report.Styled

/-!
# Reports as text

The links are shown endpoint by endpoint, in the order of the endpoints' first
links, then the batch jobs and what was counted.
-/

namespace TableReach
namespace Report

/-- A title and an empty line. -/
def headingLines (title : String) : List StyledLine :=
  [[Span.toned .bold title], []]

/-- The tone of a code. -/
def toneOf? (code : Char) : Option Tone :=
  match code with
  | 'S' => some .green
  | 'I' => some .cyan
  | 'U' => some .yellow
  | 'D' => some .red
  | _ => none

/-- The line of a link. -/
def linkLine (link : Link) : StyledLine :=
  [Span.bare "  ", { tone := toneOf? link.code, text := String.singleton link.code },
    Span.bare (" " ++ link.table)]

/-- The links of one endpoint. -/
def linksOf (report : Report) (endpoint : Endpoint) : List Link :=
  report.links.filter fun link => link.endpoint == endpoint

/-- The lines of an endpoint and its links. -/
def endpointLines (report : Report) (endpoint : Endpoint) : List StyledLine :=
  [Span.toned .boldCyan endpoint.display] :: (report.linksOf endpoint).map linkLine ++ [[]]

/-- The lines of the links. -/
def linkLines (report : Report) : List StyledLine :=
  headingLines "=== CRUD Links ===" ++
    (if report.links.isEmpty then [[Span.toned .yellow "No CRUD links produced"], []] else []) ++
    report.endpoints.flatMap report.endpointLines

/-- The line of a batch job. -/
def jobLine (job : BatchJob) : StyledLine :=
  [Span.bare ("  " ++ job.jobName ++ " (" ++ job.className ++ ")")]

/-- The lines of the batch jobs. -/
def jobLines (report : Report) : List StyledLine :=
  if report.batchJobs.isEmpty then []
  else headingLines "=== Batch Jobs ===" ++ report.batchJobs.map jobLine ++ [[]]

/-- The line that sums up a run. -/
def summaryLine (statistics : Statistics) : StyledLine :=
  [Span.bare ("Links: " ++ toString statistics.links ++ ", tables: " ++
    toString statistics.distinctTables ++ ", endpoints with links: " ++
    toString statistics.endpointsWithLinks ++ "/" ++ toString statistics.endpointsAnalyzed)]

/-- The line of the tiers. -/
def tierLines (hits : List (Tier × Nat)) : List StyledLine :=
  if hits.isEmpty then []
  else
    [[Span.bare ("Tier hits: " ++
      ", ".intercalate (hits.map fun hit => hit.1.name ++ "=" ++ toString hit.2))]]

/-- The line of a dropped statement. -/
def droppedLine (dropped : DroppedMapping) : StyledLine :=
  [Span.toned .red ("Dropped " ++ dropped.mapping ++ ": " ++ dropped.reason)]

/-- The lines of all that was counted. -/
def detailLines (report : Report) : List StyledLine :=
  let statistics := report.statistics
  [[Span.bare ("Call graph: " ++ toString statistics.graphNodes ++ " nodes, " ++
      toString statistics.graphEdges ++ " edges")],
    [Span.bare ("Mappings: " ++ toString statistics.mappingsPrepared ++ " prepared, " ++
      toString statistics.mappingsDropped ++ " dropped, " ++
      toString statistics.mappingsUnknown ++ " without operation")],
    [Span.bare ("Endpoints: " ++ toString statistics.endpointsSkipped ++ " filtered out, " ++
      toString statistics.endpointsWithoutTerminals ++ " without data-access calls")]] ++
    tierLines statistics.tierHits ++ report.dropped.map droppedLine

/-- The lines of a report. -/
def lines (report : Report) (verbose : Bool) : List StyledLine :=
  report.linkLines ++ report.jobLines ++ [summaryLine report.statistics] ++
    (if verbose then report.detailLines else [])

/-- A report as text. -/
def text (report : Report) (colored verbose : Bool) : String :=
  String.ofList ((report.lines verbose).flatMap (StyledLine.render colored))

end Report
end TableReach
