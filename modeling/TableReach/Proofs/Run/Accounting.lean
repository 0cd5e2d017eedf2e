import TableReach.Proofs.Run.Links
import Mathlib.Algebra.BigOperators.Fin
import Mathlib.Data.Fintype.BigOperators
import Mathlib.Data.List.ReduceOption

/-!
# The statistics of a report

What a run counts adds up.  Endpoints are analysed or skipped, statements are
prepared, dropped or of no known operation, and what is subtracted on the way never
exceeds what it is subtracted from.  The hits of the tiers count the pairs of an
analysed endpoint and a prepared statement, by their positions, of which the one
reaches the other.
-/

namespace TableReach

/-- The statistics of a report add up, for facts whose statements were prepared so. -/
structure Report.Accounts
    (settings : Settings)
    (facts : Facts)
    (preparation : Preparation)
    (report : Report) : Prop where
  /-- Every endpoint is analysed or skipped. -/
  endpoints_add :
    report.statistics.endpointsAnalyzed + report.statistics.endpointsSkipped =
      facts.endpoints.length
  /-- No more endpoints are analysed than there are. -/
  analyzed_le : report.statistics.endpointsAnalyzed ≤ facts.endpoints.length
  /-- Every statement is prepared, dropped or of no known operation. -/
  mappings_add :
    report.statistics.mappingsPrepared + report.statistics.mappingsDropped +
      report.statistics.mappingsUnknown = facts.mappings.length
  /-- No more statements are dropped than there are. -/
  dropped_le : report.statistics.mappingsDropped ≤ facts.mappings.length
  /-- No more statements are prepared than are not dropped. -/
  prepared_le :
    report.statistics.mappingsPrepared ≤
      facts.mappings.length - report.statistics.mappingsDropped
  /-- The prepared statements are counted. -/
  prepared_eq : report.statistics.mappingsPrepared = preparation.known.length
  /-- The dropped statements are counted. -/
  dropped_eq : report.statistics.mappingsDropped = report.dropped.length
  /-- What is left over are the statements of no known operation. -/
  unknown_eq : report.statistics.mappingsUnknown = preparation.unknown.length
  /-- An endpoint with links is not one without terminals. -/
  linked_add_le :
    report.statistics.endpointsWithLinks + report.statistics.endpointsWithoutTerminals ≤
      report.statistics.endpointsAnalyzed
  /-- The tables are counted once. -/
  tables_eq : report.statistics.distinctTables = report.tables.length
  /-- The links are counted. -/
  links_eq : report.statistics.links = report.links.length
  /-- There are no more tables than links. -/
  tables_le : report.statistics.distinctTables ≤ report.statistics.links
  /-- Hits are counted for the active tiers, in order. -/
  tiers_eq :
    report.statistics.tierHits.map Prod.fst =
      Tier.all.filter fun tier => tier.IsActive settings.disabled
  /-- There are as many hits as pairs of an analysed endpoint and a prepared statement that an
  active tier claims for what the endpoint reaches. -/
  hits_eq :
    (report.statistics.tierHits.map Prod.snd).sum =
      Nat.card
        {pair : Fin ((Engine.ofSettings settings).analyzed facts).length ×
            Fin preparation.known.length //
          settings.Claims facts.callEdges
            (((Engine.ofSettings settings).analyzed facts).get pair.1)
            (preparation.known.get pair.2)}

section Counting

theorem sum_map_indicator
    (values : List α)
    (holds : α → Bool) :
    (values.map fun value => if holds value then 1 else 0).sum = values.countP holds := by
  induction values with
  | nil => rfl
  | cons value others inductionHypothesis =>
      rw [List.map_cons, List.sum_cons, inductionHypothesis, List.countP_cons, Nat.add_comm]

/-- The pairs of positions that are related, counted for each first position. -/
theorem card_related_positions
    (first : List α)
    (second : List β)
    (related : α → β → Bool) :
    Nat.card {pair : Fin first.length × Fin second.length //
        related (first.get pair.1) (second.get pair.2) = true} =
      (first.map fun left => second.countP (related left)).sum := by
  have each (left : α) :
      ∑ position : Fin second.length, (if related left (second.get position) then 1 else 0) =
        second.countP (related left) := by
    rw [← sum_map_indicator, ← Fin.sum_univ_fun_getElem]
    rfl
  rw [Nat.card_eq_fintype_card, Fintype.card_subtype, Finset.card_filter, Fintype.sum_prod_type]
  simp only [each]
  exact Fin.sum_univ_fun_getElem first fun left => second.countP (related left)

/-- Counting values under different keys, among which each value has its own, counts them all. -/
theorem sum_map_count
    [DecidableEq α]
    {keys values : List α}
    (different : keys.Nodup)
    (listed : ∀ value ∈ values, value ∈ keys) :
    (keys.map fun key => values.count key).sum = values.length := by
  have total : ∑ key ∈ keys.toFinset, (values : Multiset α).count key =
      (values : Multiset α).card :=
    Multiset.sum_count_eq_card (by simpa using listed)
  rw [List.sum_toFinset _ different] at total
  simpa using total

end Counting

namespace Preparation

/-- A statement is prepared or dropped. -/
theorem length_prepared_add_dropped
    {sources : List Mapping}
    {outcomes : List (Except Failure Mapping)}
    (same : outcomes.length = sources.length) :
    (outcomes.filterMap Except.toOption).length + (ofOutcomes sources outcomes).dropped.length =
      sources.length := by
  induction sources generalizing outcomes with
  | nil => simp [List.eq_nil_of_length_eq_zero same, ofOutcomes]
  | cons source others inductionHypothesis =>
      cases outcomes with
      | nil => simp at same
      | cons outcome rest =>
          have later := inductionHypothesis (Nat.succ.inj same)
          cases outcome with
          | error failure => exact congrArg Nat.succ later
          | ok prepared => exact (Nat.succ_add _ _).trans (congrArg Nat.succ later)

/-- A statement is prepared with a known operation, prepared without one, or dropped. -/
theorem length_ofOutcomes
    {sources : List Mapping}
    {outcomes : List (Except Failure Mapping)}
    (same : outcomes.length = sources.length) :
    (ofOutcomes sources outcomes).known.length + (ofOutcomes sources outcomes).unknown.length +
      (ofOutcomes sources outcomes).dropped.length = sources.length := by
  have sorted := List.length_eq_length_filter_add (l := outcomes.filterMap Except.toOption)
    fun mapping : Mapping => mapping.operation != .unknown
  rw [← length_prepared_add_dropped same, sorted]
  simp only [ofOutcomes, bne, Bool.not_not]

theorem length_ofSources
    (dialect : Sql.Dialect)
    (sources : List Mapping) :
    (ofSources dialect sources).known.length + (ofSources dialect sources).unknown.length +
      (ofSources dialect sources).dropped.length = sources.length :=
  length_ofOutcomes (List.length_map _)

end Preparation

namespace Matcher

theorem tier_mem_of_claims
    {matcher : Matcher}
    {mappings : List Mapping}
    {reachable : List MethodId}
    {claim : Claimed}
    (made : claim ∈ matcher.claims mappings reachable) : claim.tier ∈ matcher.tiers := by
  obtain ⟨mapping, _, found⟩ := List.mem_filterMap.mp made
  obtain ⟨tier, first, rfl⟩ := Option.map_eq_some_iff.mp found
  exact List.mem_of_find?_eq_some first

theorem tiers_without
    (disabled : List String)
    (convention : Convention) :
    (without disabled convention).tiers = Tier.all.filter fun tier => tier.IsActive disabled := by
  apply List.filter_congr
  intro tier _
  rw [Bool.eq_iff_iff, decide_eq_true_eq]
  simp [Tier.IsActive]

end Matcher

theorem Match.endpoint_of_mem_links
    {found : Match}
    {link : Link}
    (present : link ∈ found.links) : link.endpoint = found.endpoint := by
  obtain ⟨claim, _, derived⟩ := List.mem_flatMap.mp present
  obtain ⟨table, _, derivation⟩ := List.mem_filterMap.mp derived
  obtain ⟨code, _, rfl⟩ := Option.map_eq_some_iff.mp derivation
  rfl

namespace Engine

/-- All hits of the tiers are the claims. -/
theorem sum_totalHits
    {tiers : List Tier}
    {found : List Match}
    (listed : ∀ claim ∈ found.flatMap Match.claims, claim.tier ∈ tiers) :
    ((totalHits tiers found).map Prod.snd).sum = (found.flatMap Match.claims).length := by
  rw [totalHits, List.map_map, ← List.length_map Claimed.tier]
  apply sum_map_count (nodup_eraseDups tiers)
  intro tier claimed
  obtain ⟨claim, made, rfl⟩ := List.mem_map.mp claimed
  exact List.mem_eraseDups.mpr (listed claim made)

theorem map_fst_totalHits
    (tiers : List Tier)
    (found : List Match) : (totalHits tiers found).map Prod.fst = tiers.eraseDups := by
  simp [totalHits, Function.comp_def]

theorem keys_totalHits
    {tiers : List Tier}
    (different : tiers.Nodup)
    (found : List Match) : (totalHits tiers found).map Prod.fst = tiers := by
  rw [map_fst_totalHits, eraseDups_of_nodup different]

/-- Endpoints are linked by their value and without terminals by their position, and yet no more
of both than there are results. -/
theorem length_linked_add_le
    (results : List (Option Match)) :
    (((results.filterMap id).flatMap Match.links).map Link.endpoint).eraseDups.length +
      (results.filter Option.isNone).length ≤ results.length := by
  rw [List.length_eq_reduceOption_length_add_filter_none (l := results),
    ← List.length_map Match.endpoint]
  apply Nat.add_le_add_right
  apply length_eraseDups_le_of_subset
  intro endpoint linked
  obtain ⟨link, present, rfl⟩ := List.mem_map.mp linked
  obtain ⟨found, among, linkOf⟩ := List.mem_flatMap.mp present
  rw [Match.endpoint_of_mem_links linkOf]
  exact List.mem_map_of_mem among

theorem length_analyzed_le
    (engine : Engine)
    (facts : Facts) : (engine.analyzed facts).length ≤ facts.endpoints.length := by
  rw [analyzed, List.length_map]
  exact List.length_filter_le _ _

/-- Every claim of a run is made by a tier of the matcher. -/
theorem tier_mem_of_results
    (settings : Settings)
    (facts : Facts)
    (mappings : List Mapping) :
    ∀ claim ∈ (((ofSettings settings).results facts mappings).filterMap id).flatMap Match.claims,
      claim.tier ∈ (ofSettings settings).matcher.tiers := by
  intro claim made
  rw [flatMap_found] at made
  obtain ⟨endpoint, _, claimed⟩ := List.mem_flatMap.mp made
  rw [claims_analyze] at claimed
  exact Matcher.tier_mem_of_claims claimed

/-- All hits of a run are the pairs of an analysed endpoint and a statement that is claimed. -/
theorem length_claims_results
    (settings : Settings)
    (facts : Facts)
    (mappings : List Mapping) :
    ((((ofSettings settings).results facts mappings).filterMap id).flatMap Match.claims).length =
      Nat.card
        {pair : Fin ((ofSettings settings).analyzed facts).length × Fin mappings.length //
          settings.Claims facts.callEdges
            (((ofSettings settings).analyzed facts).get pair.1) (mappings.get pair.2)} := by
  have claimed (endpoint : Endpoint) :
      ((ofSettings settings).matcher.claims mappings
          (terminals settings facts.callEdges endpoint)).length =
        mappings.countP fun mapping => ((ofSettings settings).matcher.tierOf? mapping
          (terminals settings facts.callEdges endpoint)).isSome := by
    rw [← List.length_map Claimed.mapping, Matcher.map_mapping_claims,
      List.countP_eq_length_filter]
  simp only [flatMap_found, claims_analyze, List.length_flatMap, claimed,
    ← isSome_tierOf?_terminals]
  exact (card_related_positions _ _ fun endpoint mapping =>
    ((ofSettings settings).matcher.tierOf? mapping
      (terminals settings facts.callEdges endpoint)).isSome).symm

/-- The statistics of every run add up. -/
theorem run_accounts
    (settings : Settings)
    (evict : Eviction)
    (facts : Facts) :
    ((ofSettings settings).run evict facts).value.1.Accounts settings facts
      (Preparation.run evict (ofSettings settings).classifier facts.mappings).value.1 := by
  have prepared : (Preparation.run evict (ofSettings settings).classifier
      facts.mappings).value.1 = Preparation.ofSources settings.dialect facts.mappings :=
    Preparation.run_fst (Classifier.Coherent.fresh _ _) evict facts.mappings
  rw [run_ofSettings, prepared]
  have analyzedLe := length_analyzed_le (ofSettings settings) facts
  have sorted := Preparation.length_ofSources settings.dialect facts.mappings
  -- The counts that are differences need that nothing is cut off at zero, which is what
  -- `analyzedLe` and `sorted` say.
  constructor <;> simp only [conclude]
  case endpoints_add => exact Nat.add_sub_cancel' analyzedLe
  case analyzed_le => exact analyzedLe
  case mappings_add => omega
  case dropped_le => omega
  case prepared_le => omega
  case unknown_eq => omega
  case linked_add_le =>
    refine (length_linked_add_le _).trans ?_
    rw [results, List.length_map]
  case tables_eq => rfl
  case tables_le =>
    rw [← List.length_map Link.table]
    exact length_eraseDups_le_of_subset (List.Subset.refl _)
  case tiers_eq =>
    have tiers : (ofSettings settings).matcher.tiers = _ := Matcher.tiers_without _ _
    rw [tiers]
    exact keys_totalHits (List.Nodup.filter _ (by decide)) _
  case hits_eq =>
    rw [← length_claims_results]
    exact sum_totalHits (tier_mem_of_results settings facts _)

end Engine

end TableReach
