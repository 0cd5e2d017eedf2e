import TableReach.Report.Output
import TableReach.Proofs.OrderedTable
import TableReach.Proofs.Run.Report

/-!
# The links of a report as they are printed

A printed report has a header for every endpoint with a link, and under the header a
line for each of its links.  Taken line by line, with the endpoint of the header
above, the lines are the links of the report: none is lost, none is printed twice,
and those of one endpoint stay in order.

The groups are gathered by a loop over the links, which puts each link behind the
earlier ones of its endpoint.
-/

namespace TableReach

/-- A header and the lines under it, each with a code and a table. -/
structure LinkGroup where
  /-- The endpoint in the header. -/
  endpoint : Endpoint
  /-- The codes and tables of the lines. -/
  lines : List (Char × String)

namespace LinkGroup

/-- The group of some links under a header. -/
def ofLinks
    (endpoint : Endpoint)
    (links : List Link) : LinkGroup :=
  { endpoint := endpoint, lines := links.map fun link => (link.code, link.table) }

/-- The lines of a group read as links of the endpoint in its header. -/
def links (group : LinkGroup) : List Link :=
  group.lines.map fun line => { endpoint := group.endpoint, table := line.2, code := line.1 }

/-- The header without colours. -/
def headerText (endpoint : Endpoint) : String :=
  endpoint.httpMethod ++ " " ++ endpoint.urlPath ++ " (" ++ endpoint.entryClass ++ "#" ++
    endpoint.entryMethod ++ ")\n"

/-- A line without colours. -/
def lineText (line : Char × String) : String :=
  "  " ++ String.singleton line.1 ++ " " ++ line.2 ++ "\n"

/-- A group without colours: its header, its lines and an empty line. -/
def text (group : LinkGroup) : List Char :=
  (headerText group.endpoint).toList ++ group.lines.flatMap (fun line => (lineText line).toList) ++
    ['\n']

/-- Lines read back are the links that they were made of. -/
theorem links_ofLinks
    {endpoint : Endpoint}
    {links : List Link}
    (own : ∀ link ∈ links, link.endpoint = endpoint) : (ofLinks endpoint links).links = links := by
  have same : ∀ link ∈ links,
      ({ endpoint := endpoint, table := link.table, code := link.code } : Link) = link := by
    intro link listed
    rw [← own link listed]
  rw [LinkGroup.links, ofLinks, List.map_map]
  exact (List.map_congr_left same).trans (List.map_id' links)

end LinkGroup

namespace Report

/-- The links of a report under their endpoints, gathered one after the other. -/
def groups (report : Report) : List LinkGroup :=
  (group Link.endpoint report.links).map fun entry => LinkGroup.ofLinks entry.1 entry.2

/-- What a report prints behind its links. -/
def closing
    (report : Report)
    (verbose : Bool) : List Char :=
  (report.jobLines ++ [summaryLine report.statistics] ++
    (if verbose then report.detailLines else [])).flatMap (StyledLine.render false)

/-- What a report without colours prints of its links. -/
structure Prints
    (report : Report)
    (verbose : Bool)
    (groups : List LinkGroup) : Prop where
  /-- Between the heading and the rest the groups are printed, or a note if there is no link. -/
  render_eq :
    (report.render { format := .text, colored := false, verbose := verbose }).toList =
      "=== CRUD Links ===\n\n".toList ++
        (if report.links = [] then "No CRUD links produced\n\n".toList else []) ++
        groups.flatMap LinkGroup.text ++ report.closing verbose
  /-- The headers are the endpoints that have a link. -/
  mem_headers :
    ∀ endpoint, endpoint ∈ groups.map LinkGroup.endpoint ↔
      ∃ link ∈ report.links, link.endpoint = endpoint
  /-- They come in the order of their first links, each once. -/
  pairwise_headers :
    (groups.map LinkGroup.endpoint).Pairwise fun earlier later =>
      report.links.findIdx (fun link => link.endpoint = earlier) <
        report.links.findIdx (fun link => link.endpoint = later)
  /-- Under a header stand the links of its endpoint, in order. -/
  links_eq :
    ∀ group ∈ groups,
      group.links = report.links.filter fun link => link.endpoint = group.endpoint
  /-- All lines together are the links of the report in some order. -/
  perm : (groups.flatMap LinkGroup.links).Perm report.links
  /-- Links of the same endpoint keep their order. -/
  filter_eq :
    ∀ endpoint,
      ((groups.flatMap LinkGroup.links).filter fun link => link.endpoint = endpoint) =
        report.links.filter fun link => link.endpoint = endpoint

/-- The statistics count the headers and the lines under them. -/
def CountsGroups (report : Report) : Prop :=
  report.groups.length = report.statistics.endpointsWithLinks ∧
    (report.groups.flatMap LinkGroup.lines).length = report.statistics.links

/-! ## The groups -/

variable (report : Report)

theorem groups_eq :
    report.groups = report.endpoints.map fun endpoint =>
      LinkGroup.ofLinks endpoint (report.links.filter fun link => link.endpoint = endpoint) := by
  rw [groups, group_eq, List.map_map]
  rfl

theorem map_endpoint_groups : report.groups.map LinkGroup.endpoint = report.endpoints := by
  rw [groups_eq, List.map_map]
  exact List.map_id' report.endpoints

/-- A group read back holds the links of its endpoint. -/
theorem links_of_mem_groups
    {group : LinkGroup}
    (listed : group ∈ report.groups) :
    group.links = report.links.filter fun link => link.endpoint = group.endpoint := by
  rw [groups_eq] at listed
  obtain ⟨endpoint, _, rfl⟩ := List.mem_map.mp listed
  apply LinkGroup.links_ofLinks
  intro link present
  exact of_decide_eq_true (List.mem_filter.mp present).2

/-- All groups read back are the gathered links. -/
theorem flatMap_links_groups :
    report.groups.flatMap LinkGroup.links =
      (group Link.endpoint report.links).flatMap Prod.snd := by
  rw [groups, List.flatMap_map]
  apply List.flatMap_congr
  intro entry listed
  rw [group_eq] at listed
  obtain ⟨endpoint, _, rfl⟩ := List.mem_map.mp listed
  apply LinkGroup.links_ofLinks
  intro link present
  exact of_decide_eq_true (List.mem_filter.mp present).2

/-- Grouping keeps the links of each endpoint in order. -/
theorem filter_links_groups
    (endpoint : Endpoint) :
    ((report.groups.flatMap LinkGroup.links).filter fun link => link.endpoint = endpoint) =
      report.links.filter fun link => link.endpoint = endpoint := by
  rw [flatMap_links_groups]
  exact filter_flatMap_group Link.endpoint report.links endpoint

/-- Grouping loses and repeats no link. -/
theorem perm_links_groups : (report.groups.flatMap LinkGroup.links).Perm report.links :=
  perm_of_filter_key Link.endpoint report.filter_links_groups

/-! ## The text -/

theorem render_span (span : Span) : span.render false = span.text.toList := by
  unfold Span.render
  split
  · rfl
  · rfl

theorem render_linkLine (link : Link) :
    StyledLine.render false (linkLine link) =
      (LinkGroup.lineText (link.code, link.table)).toList := by
  simp [StyledLine.render, linkLine, LinkGroup.lineText, render_span, Span.bare]

/-- The lines of an endpoint without colours are those of its group. -/
theorem render_endpointLines (endpoint : Endpoint) :
    (report.endpointLines endpoint).flatMap (StyledLine.render false) =
      (LinkGroup.ofLinks endpoint
        (report.links.filter fun link => link.endpoint = endpoint)).text := by
  have header : StyledLine.render false [Span.toned .boldCyan endpoint.display] =
      (LinkGroup.headerText endpoint).toList := by
    simp [StyledLine.render, render_span, Span.toned, LinkGroup.headerText, Endpoint.display,
      Endpoint.entryId, MethodId.ofParts]
  have own : report.linksOf endpoint = report.links.filter fun link => link.endpoint = endpoint :=
    List.filter_congr fun link _ => beq_eq_decide _ _
  rw [endpointLines, List.cons_append, List.flatMap_cons, List.flatMap_append, List.flatMap_map,
    header, own, LinkGroup.text, LinkGroup.ofLinks, List.flatMap_map]
  simp only [render_linkLine, List.append_assoc]
  rfl

/-- The text without colours: heading, groups and the rest. -/
theorem toList_text
    (verbose : Bool) :
    (report.text false verbose).toList =
      "=== CRUD Links ===\n\n".toList ++
        (if report.links = [] then "No CRUD links produced\n\n".toList else []) ++
        report.groups.flatMap LinkGroup.text ++ report.closing verbose := by
  have heading : (headingLines "=== CRUD Links ===").flatMap (StyledLine.render false) =
      "=== CRUD Links ===\n\n".toList := rfl
  have note :
      (if report.links.isEmpty then [[Span.toned .yellow "No CRUD links produced"], []]
        else []).flatMap (StyledLine.render false) =
          if report.links = [] then "No CRUD links produced\n\n".toList else [] := by
    by_cases nothing : report.links = []
    · simp [nothing]
      rfl
    · simp [nothing]
  rw [text, String.toList_ofList, lines, closing, List.append_assoc, List.append_assoc,
    List.flatMap_append, linkLines, List.flatMap_append, List.flatMap_append, heading, note,
    List.flatMap_assoc, groups_eq, List.flatMap_map]
  simp only [render_endpointLines, List.append_assoc]

/-! ## Every report and every run -/

/-- What a report without colours prints of its links. -/
theorem prints_groups
    (verbose : Bool) : report.Prints verbose report.groups where
  render_eq := report.toList_text verbose
  mem_headers endpoint := by
    rw [map_endpoint_groups, endpoints, List.mem_eraseDups, List.mem_map]
  pairwise_headers := by
    have ordered := pairwise_eraseDups_filterMap
      (fun link : Link => some link.endpoint) report.links
    rw [map_endpoint_groups, endpoints]
    simpa [Function.comp_def] using ordered
  links_eq _ listed := report.links_of_mem_groups listed
  perm := report.perm_links_groups
  filter_eq := report.filter_links_groups

/-- The statistics of a run count the links and their endpoints, which are the lines and the
headers. -/
theorem countsGroups_run
    (evict : Eviction)
    (engine : Engine)
    (facts : Facts) : (engine.run evict facts).value.1.CountsGroups := by
  have concluded : (engine.run evict facts).value.1 =
      (engine.report facts
        (Preparation.run evict engine.classifier facts.mappings).value.1).value := rfl
  have lines (report : Report) :
      (report.groups.flatMap LinkGroup.lines).length = report.links.length := by
    rw [← report.perm_links_groups.length_eq, List.length_flatMap, List.length_flatMap]
    simp only [LinkGroup.links, List.length_map]
  constructor
  · rw [← List.length_map LinkGroup.endpoint, map_endpoint_groups, concluded, Engine.value_report]
    rfl
  · rw [lines, concluded, Engine.value_report]
    rfl

/-- Without colours every report prints its links in groups, one for each endpoint, and loses and
repeats none of them.  For the report of a run, there are as many headers as the statistics count
endpoints with links, and as many lines under them as links. -/
theorem text_prints_groups :
    (∀ (report : Report) (verbose : Bool), report.Prints verbose report.groups) ∧
      ∀ (evict : Eviction) (engine : Engine) (facts : Facts),
        (engine.run evict facts).value.1.CountsGroups :=
  ⟨prints_groups, countsGroups_run⟩

end Report
end TableReach
