import TableReach.Proofs.Matching
import TableReach.Proofs.Run.Preparation

/-!
# The links of a report

Which links a report holds and in which order, said without a search, a cache or a
matcher: endpoints and statements are taken in the order of the facts, what an
endpoint reaches is said by walks, and what claims a statement by the tiers.
-/

namespace TableReach

/-- A method is reached from the entry: another one, to which a walk leads that the limit allows,
and of the data-access layer. -/
def Reached
    (edges : List CallEdge)
    (suffixes : List String)
    (maxDepth : Nat)
    (entry id : MethodId) : Prop :=
  id ≠ entry ∧
    (∃ length, 1 ≤ length ∧ WithinLimit maxDepth length ∧ Walk edges entry length id) ∧
    InDataAccessLayer suffixes id

/-- A package is analysed: it begins with what is included, where anything is, and with nothing
that is excluded. -/
def PackageFilter.Admits
    (filter : PackageFilter)
    (package : String) : Prop :=
  (filter.included = [] ∨
      ∃ beginning ∈ filter.included, beginning.toList <+: package.toList) ∧
    ∀ beginning ∈ filter.excluded, ¬ beginning.toList <+: package.toList

namespace Settings

/-- An active tier holds between a prepared statement and what an endpoint reaches. -/
def Claims
    (settings : Settings)
    (edges : List CallEdge)
    (endpoint : Endpoint)
    (prepared : Mapping) : Prop :=
  ∃ tier : Tier, tier.IsActive settings.disabled ∧
    tier.Holds settings.suffixes prepared
      (Reached edges settings.suffixes settings.maxDepth endpoint.entryId)

open Classical in
/-- The links of one endpoint and one statement: none if the statement cannot be prepared, has no
known operation or is not claimed, else one for each table with a name. -/
noncomputable def linksBetween
    (settings : Settings)
    (edges : List CallEdge)
    (endpoint : Endpoint)
    (source : Mapping) : List Link :=
  match source.outcome settings.dialect with
  | .error _ => []
  | .ok prepared =>
      if prepared.operation ≠ .unknown ∧ settings.Claims edges endpoint prepared then
        (prepared.tables.filter (· ≠ "")).eraseDups.map fun table =>
          { endpoint :=
              { endpoint with httpMethod := Text.upperAscii endpoint.httpMethod }
            table := table
            code := prepared.operation.name.toList.headD ' ' }
      else []

open Classical in
/-- The links of all endpoints that are analysed, statement by statement. -/
noncomputable def expectedLinks
    (settings : Settings)
    (facts : Facts) : List Link :=
  (facts.endpoints.filter fun endpoint => settings.packages.Admits endpoint.packageName).flatMap
    fun endpoint => facts.mappings.flatMap (settings.linksBetween facts.callEdges endpoint)

end Settings

theorem PackageFilter.admits_iff
    (filter : PackageFilter)
    (package : String) : filter.admits package = true ↔ filter.Admits package := by
  simp [admits, Admits]

/-- The terminals of a search are the methods that are reached. -/
theorem CallGraph.mem_terminals_iff
    (edges : List CallEdge)
    (suffixes : List String)
    (maxDepth : Nat)
    (entry id : MethodId) :
    id ∈ ((ofEdges edges).reach maxDepth entry).terminals (Convention.ofSuffixes suffixes) ↔
      Reached edges suffixes maxDepth entry id := by
  rw [Reach.terminals, List.mem_filter, Convention.isDataAccess_className_iff,
    mem_discoveries_iff_withinLimit, Reached, and_assoc]
  refine and_congr_right fun different => and_congr_left fun _ => ?_
  constructor
  · rintro ⟨distance, shortest, allowed⟩
    refine ⟨distance, Nat.pos_of_ne_zero ?_, allowed, shortest.1⟩
    rintro rfl
    exact different (IsDistance.zero_iff.mp shortest)
  · rintro ⟨length, _, allowed, walk⟩
    obtain ⟨distance, shorter, shortest⟩ := walk.exists_distance
    exact ⟨distance, shortest, allowed.imp_right shorter.trans⟩

/-- The tables of a prepared statement have names. -/
theorem Mapping.Completes.ne_empty_of_mem_tables
    {dialect : Sql.Dialect}
    {source prepared : Mapping}
    (completes : source.Completes dialect prepared)
    {table : String}
    (listed : table ∈ prepared.tables) : table ≠ "" := by
  have kept : ∃ tables : List String, table ∈ (tables.filter (· ≠ "")).eraseDups := by
    by_cases missing : source.tables = []
    · obtain ⟨text, _, found⟩ := completes.tables_found missing
      exact ⟨_, found ▸ listed⟩
    · exact ⟨_, completes.tables_given missing ▸ listed⟩
  obtain ⟨tables, named⟩ := kept
  simpa using (List.mem_filter.mp (List.mem_eraseDups.mp named)).2

theorem Mapping.tables_outcome
    {dialect : Sql.Dialect}
    {source prepared : Mapping}
    (success : source.outcome dialect = .ok prepared) :
    (prepared.tables.filter (· ≠ "")).eraseDups = prepared.tables.eraseDups := by
  congr 1
  rw [List.filter_eq_self]
  intro table listed
  simpa using (outcome_eq_ok_iff.mp success).ne_empty_of_mem_tables listed

/-- A link stands between an endpoint and a statement exactly if the statement, completed by what
is found in its text, has a known operation, is claimed and has the table. -/
theorem Settings.mem_linksBetween_iff
    {settings : Settings}
    {edges : List CallEdge}
    {endpoint : Endpoint}
    {source : Mapping}
    {link : Link} :
    link ∈ settings.linksBetween edges endpoint source ↔
      ∃ prepared, source.Completes settings.dialect prepared ∧
        prepared.operation ≠ .unknown ∧ settings.Claims edges endpoint prepared ∧
        ∃ table ∈ prepared.tables,
          link =
            { endpoint := { endpoint with httpMethod := Text.upperAscii endpoint.httpMethod }
              table := table
              code := prepared.operation.name.toList.headD ' ' } := by
  simp only [linksBetween, ← Mapping.outcome_eq_ok_iff]
  cases outcome : source.outcome settings.dialect with
  | error failure => simp
  | ok prepared =>
      have tables := Mapping.tables_outcome outcome
      simp only [Except.ok.injEq, exists_eq_left']
      by_cases claimed : prepared.operation ≠ .unknown ∧ settings.Claims edges endpoint prepared
      · rw [if_pos claimed, tables]
        simp [claimed.1, claimed.2, eq_comm]
      · rw [if_neg claimed]
        simp only [List.not_mem_nil, false_iff]
        rintro ⟨known, claims, _⟩
        exact claimed ⟨known, claims⟩

namespace Engine

variable
  (settings : Settings)
  (edges : List CallEdge)

/-- The terminals of an endpoint. -/
def terminals (endpoint : Endpoint) : List MethodId :=
  ((CallGraph.ofEdges edges).reach settings.maxDepth endpoint.entryId).terminals
    settings.convention

/-- A statement is claimed for the terminals of an endpoint exactly if an active tier holds with
what the endpoint reaches. -/
theorem isSome_tierOf?_terminals
    (endpoint : Endpoint)
    (mapping : Mapping) :
    ((ofSettings settings).matcher.tierOf? mapping (terminals settings edges endpoint)).isSome =
        true ↔
      settings.Claims edges endpoint mapping := by
  have same : (· ∈ terminals settings edges endpoint) =
      Reached edges settings.suffixes settings.maxDepth endpoint.entryId := by
    funext id
    exact propext (CallGraph.mem_terminals_iff _ _ _ _ _)
  rw [Settings.Claims, ← same]
  exact Matcher.isSome_tierOf?_iff _ _ _ _

/-- What is found for an endpoint. -/
theorem value_analyze
    (mappings : List Mapping)
    (endpoint : Endpoint) :
    ((ofSettings settings).analyze (CallGraph.ofEdges edges) mappings endpoint).value =
      if (terminals settings edges endpoint).isEmpty then none
      else some
        { endpoint := endpoint
          claims := (ofSettings settings).matcher.claims mappings
            (terminals settings edges endpoint) } := by
  have searched : ((ofSettings settings).search.run (CallGraph.ofEdges edges)
      endpoint.entryId).value.terminals (ofSettings settings).search.convention =
        terminals settings edges endpoint := rfl
  simp only [analyze, Logged.value_bind, searched]
  by_cases nothing : (terminals settings edges endpoint).isEmpty = true
  · rw [if_pos nothing, if_pos nothing]
    rfl
  · rw [if_neg nothing, if_neg nothing, Matcher.run, if_neg nothing]
    rfl

/-- The claims for an endpoint are those of the matcher with its terminals, whether or not there
are any. -/
theorem claims_analyze
    (mappings : List Mapping)
    (endpoint : Endpoint) :
    ((ofSettings settings).analyze (CallGraph.ofEdges edges) mappings endpoint).value.toList.flatMap
        Match.claims =
      (ofSettings settings).matcher.claims mappings (terminals settings edges endpoint) := by
  rw [value_analyze]
  split
  · next nothing =>
      symm
      rw [Option.toList_none, List.flatMap_nil, Matcher.claims, List.filterMap_eq_nil_iff]
      intro mapping _
      rw [Option.map_eq_none_iff, ← Option.not_isSome_iff_eq_none, isSome_tierOf?_terminals]
      rintro ⟨tier, _, holds⟩
      obtain ⟨id, reached⟩ := Tier.exists_reached holds
      have terminal : id ∈ terminals settings edges endpoint :=
        (CallGraph.mem_terminals_iff _ _ _ _ _).mpr reached
      rw [List.isEmpty_iff.mp nothing] at terminal
      exact List.not_mem_nil terminal
  · rw [Option.toList_some, List.flatMap_singleton]

/-- The links of an endpoint are those of the claimed statements. -/
theorem links_analyze
    (mappings : List Mapping)
    (endpoint : Endpoint) :
    ((ofSettings settings).analyze (CallGraph.ofEdges edges) mappings endpoint).value.toList.flatMap
        Match.links =
      (mappings.filter fun mapping =>
        ((ofSettings settings).matcher.tierOf? mapping
          (terminals settings edges endpoint)).isSome).flatMap (Match.linksOf endpoint) := by
  rw [← Matcher.map_mapping_claims, List.flatMap_map, ← claims_analyze, value_analyze]
  split
  · rfl
  · rw [Option.toList_some, List.flatMap_singleton, List.flatMap_singleton]
    rfl

/-- The links that are concluded are those of the endpoints that are analysed. -/
theorem links_conclude
    (engine : Engine)
    (facts : Facts)
    (graph : CallGraph)
    (preparation : Preparation)
    (mappings : List Mapping) :
    (engine.conclude facts graph preparation (engine.results facts mappings)).links =
      (engine.analyzed facts).flatMap fun endpoint =>
        (engine.analyze (CallGraph.ofEdges facts.callEdges) mappings
          endpoint).value.toList.flatMap Match.links :=
  flatMap_found engine facts mappings Match.links

theorem links_report
    (engine : Engine)
    (facts : Facts)
    (preparation : Preparation) :
    (engine.report facts preparation).value.links =
      ((facts.endpoints.filter fun endpoint =>
        engine.packages.admits endpoint.packageName).map Endpoint.normalize).flatMap
          fun endpoint => (engine.analyze (CallGraph.ofEdges facts.callEdges) preparation.known
            endpoint).value.toList.flatMap Match.links := by
  rw [value_report]
  exact links_conclude engine facts _ preparation preparation.known

/-- The statements that are prepared, have a known operation and are claimed give the links of
each statement of the facts. -/
theorem flatMap_linksOf_known
    (endpoint : Endpoint)
    (sources : List Mapping) :
    (((Preparation.ofOutcomes sources
        (sources.map (Mapping.outcome settings.dialect))).known.filter fun mapping =>
          ((ofSettings settings).matcher.tierOf? mapping
            (terminals settings edges endpoint.normalize)).isSome).flatMap
              (Match.linksOf endpoint.normalize)) =
      sources.flatMap (settings.linksBetween edges endpoint) := by
  induction sources with
  | nil => rfl
  | cons source others inductionHypothesis =>
      rw [List.flatMap_cons, ← inductionHypothesis, Settings.linksBetween]
      simp only [Preparation.ofOutcomes, List.map_cons, List.filterMap_cons]
      cases outcome : source.outcome settings.dialect with
      | error failure => rfl
      | ok prepared =>
          have claimed := isSome_tierOf?_terminals settings edges endpoint.normalize prepared
          change _ ↔ settings.Claims edges endpoint prepared at claimed
          by_cases unknown : prepared.operation = .unknown
          · simp [Except.toOption, unknown]
          · by_cases claims : settings.Claims edges endpoint prepared
            · simp only [Except.toOption, List.filter_cons, bne_iff_ne, ne_eq, unknown,
                not_false_eq_true, if_true, claimed.mpr claims, List.flatMap_cons, claims, and_self]
              rw [Match.linksOf_eq _ unknown, ← Mapping.tables_outcome outcome]
              rfl
            · have refused := (not_congr claimed).mpr claims
              simp only [Except.toOption, List.filter_cons, bne_iff_ne, ne_eq, unknown,
                not_false_eq_true, if_true, refused, Bool.false_eq_true, claims, and_false,
                if_false,
                List.nil_append]

/-- A report holds exactly the expected links, in their order: for each endpoint that is analysed,
for each statement that is prepared with a known operation and claimed by an active tier, one link
for each of its tables. -/
theorem links_run
    (settings : Settings)
    (evict : Eviction)
    (facts : Facts) :
    ((ofSettings settings).run evict facts).value.1.links = settings.expectedLinks facts := by
  classical
  rw [run_fst (Classifier.Coherent.fresh _ _), plainReport, reportOf, links_report,
    List.flatMap_map, Settings.expectedLinks]
  have admitted : (fun endpoint : Endpoint =>
      (ofSettings settings).packages.admits endpoint.packageName) =
        fun endpoint => decide (settings.packages.Admits endpoint.packageName) := by
    funext endpoint
    rw [Bool.eq_iff_iff, PackageFilter.admits_iff, decide_eq_true_iff]
    rfl
  rw [admitted]
  refine List.flatMap_congr fun endpoint _ => ?_
  rw [links_analyze]
  exact flatMap_linksOf_known settings facts.callEdges endpoint facts.mappings

end Engine
end TableReach
