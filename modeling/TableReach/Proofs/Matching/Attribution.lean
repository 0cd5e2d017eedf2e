import TableReach.Proofs.Matching
import TableReach.Proofs.OrderedTable

/-!
# Attribution of statements to tiers

A matcher may have any tiers in any order.  A statement is attributed to the first
of them that holds, gives its links under the endpoint if its operation is known,
and counts as a hit of its tier in any case.

The same is said once more as a loop over the statements, which keeps the links and
the hits that it has gathered so far.  The loop does not ask whether anything is
reached, and comes to what a run of the matcher gives.
-/

namespace TableReach

/-- The tier is the first of some tiers that holds between a statement and the reached methods. -/
def Tier.IsFirst
    (tiers : List Tier)
    (suffixes : List String)
    (reachable : List MethodId)
    (mapping : Mapping)
    (tier : Tier) : Prop :=
  ∃ before later, tiers = before ++ tier :: later ∧
    tier.Holds suffixes mapping (· ∈ reachable) ∧
    ∀ earlier ∈ before, ¬ earlier.Holds suffixes mapping (· ∈ reachable)

open Classical in
/-- A match attributes each statement to the first of some tiers that holds. -/
structure Match.Attributes
    (tiers : List Tier)
    (suffixes : List String)
    (endpoint : Endpoint)
    (mappings : List Mapping)
    (reachable : List MethodId)
    (found : Match) : Prop where
  /-- Statement by statement there is a link for each table, if the statement is attributed and its
  operation is known. -/
  links_eq :
    found.links = mappings.flatMap fun mapping =>
      if (∃ tier : Tier, tier.IsFirst tiers suffixes reachable mapping) ∧
          mapping.operation ≠ .unknown then
        mapping.tables.eraseDups.map fun table =>
          { endpoint := endpoint, table := table
            code := mapping.operation.name.toList.headD ' ' }
      else []
  /-- A tier has hits if a statement is attributed to it, and each such statement is one. -/
  mem_tierHits_iff :
    ∀ tier count, (tier, count) ∈ found.tierHits ↔
      (∃ mapping ∈ mappings, tier.IsFirst tiers suffixes reachable mapping) ∧
        count = mappings.countP fun mapping => tier.IsFirst tiers suffixes reachable mapping
  /-- The tiers come in the order of their first hits. -/
  pairwise_tierHits :
    (found.tierHits.map Prod.fst).Pairwise fun earlier later =>
      mappings.findIdx (fun mapping => earlier.IsFirst tiers suffixes reachable mapping) <
        mappings.findIdx (fun mapping => later.IsFirst tiers suffixes reachable mapping)
  /-- All hits together are the attributed statements, whether or not their operation is known. -/
  sum_tierHits :
    (found.tierHits.map Prod.snd).sum = mappings.countP fun mapping =>
      ∃ tier : Tier, tier.IsFirst tiers suffixes reachable mapping

section Hits

variable [DecidableEq κ]

/-- One more hit adds one to all hits together. -/
theorem sum_upsert_succ
    (key : κ)
    (hits : List (κ × Nat)) :
    ((upsert 0 (· + 1) key hits).map Prod.snd).sum = (hits.map Prod.snd).sum + 1 := by
  induction hits with
  | nil => rfl
  | cons hit others inductionHypothesis =>
      rw [upsert]
      split
      · simp only [List.map_cons, List.sum_cons]
        omega
      · simp only [List.map_cons, List.sum_cons, inductionHypothesis]
        omega

/-- The hits of items, each of which may be attributed to a key. -/
def hitsOf
    (keyOf : ι → Option κ)
    (items : List ι) : List (κ × Nat) :=
  tabulate id 0 (fun count _ => count + 1) (items.filterMap keyOf)

variable
  (keyOf : ι → Option κ)
  (items : List ι)

theorem hitsOf_concat
    (item : ι) :
    hitsOf keyOf (items ++ [item]) =
      match keyOf item with
      | none => hitsOf keyOf items
      | some key => upsert 0 (· + 1) key (hitsOf keyOf items) := by
  rw [hitsOf, List.filterMap_append]
  cases attributed : keyOf item with
  | none => simp [attributed, hitsOf]
  | some key => simp [attributed, hitsOf, tabulate_concat]

theorem hitsOf_eq :
    hitsOf keyOf items =
      (items.filterMap keyOf).eraseDups.map fun key =>
        (key, items.countP fun item => keyOf item = some key) := by
  rw [hitsOf, tabulate_count, List.map_id]
  simp only [List.count_filterMap, beq_eq_decide]

/-- A key has hits if an item is attributed to it, and each such item is one. -/
theorem mem_hitsOf_iff
    (key : κ)
    (count : Nat) :
    (key, count) ∈ hitsOf keyOf items ↔
      (∃ item ∈ items, keyOf item = some key) ∧
        count = items.countP fun item => keyOf item = some key := by
  simp only [hitsOf_eq, List.mem_map, List.mem_eraseDups, List.mem_filterMap, Prod.mk.injEq]
  constructor
  · rintro ⟨_, hit, rfl, counted⟩
    exact ⟨hit, counted.symm⟩
  · rintro ⟨hit, counted⟩
    exact ⟨key, hit, rfl, counted.symm⟩

theorem pairwise_hitsOf :
    ((hitsOf keyOf items).map Prod.fst).Pairwise fun earlier later =>
      items.findIdx (fun item => keyOf item = some earlier) <
        items.findIdx (fun item => keyOf item = some later) := by
  have ordered := pairwise_eraseDups_filterMap keyOf items
  simpa [hitsOf_eq, Function.comp_def] using ordered

/-- All hits together are the items that are attributed to a key. -/
theorem sum_hitsOf :
    ((hitsOf keyOf items).map Prod.snd).sum =
      items.countP fun item => (keyOf item).isSome := by
  induction items using List.reverseRecOn with
  | nil => rfl
  | append_singleton items item inductionHypothesis =>
      rw [hitsOf_concat, List.countP_append, ← inductionHypothesis]
      cases attributed : keyOf item with
      | none => simp [attributed]
      | some key => simp [attributed, sum_upsert_succ]

end Hits

/-- Links and hits that have been gathered. -/
structure Gathered where
  /-- The links. -/
  links : List Link
  /-- How many statements each tier claimed. -/
  hits : List (Tier × Nat)

namespace Match

/-- The links and the hits of a match. -/
def gathered (found : Match) : Gathered :=
  { links := found.links, hits := found.tierHits }

theorem linksOf_of_unknown
    (endpoint : Endpoint)
    {mapping : Mapping}
    (unknown : mapping.operation = .unknown) : linksOf endpoint mapping = [] := by
  simp [linksOf, Link.derive?, unknown, Operation.code?]

/-- The links of a statement that may be attributed, table by table. -/
theorem ite_linksOf
    (endpoint : Endpoint)
    (mapping : Mapping)
    {claimed : Bool}
    {attributed : Prop}
    [Decidable (attributed ∧ mapping.operation ≠ .unknown)]
    (same : claimed = true ↔ attributed) :
    (if claimed then linksOf endpoint mapping else []) =
      if attributed ∧ mapping.operation ≠ .unknown then
        mapping.tables.eraseDups.map fun table =>
          { endpoint := endpoint, table := table
            code := mapping.operation.name.toList.headD ' ' }
      else [] := by
  by_cases unknown : mapping.operation = .unknown
  · simp [unknown, linksOf_of_unknown]
  · rw [linksOf_eq endpoint unknown]
    by_cases holds : attributed
    · rw [if_pos (same.mpr holds), if_pos ⟨holds, unknown⟩]
    · rw [if_neg (holds ∘ same.mp), if_neg (holds ∘ And.left)]

theorem tierHits_eq_hitsOf (found : Match) :
    found.tierHits = hitsOf (fun claim => some claim.tier) found.claims := by
  rw [hitsOf, tabulate_count, List.map_id, List.filterMap_eq_map']
  rfl

end Match

namespace Matcher

/-- The matcher of some tiers, which are tried in the given order. -/
def ofTiers
    (tiers : List Tier)
    (suffixes : List String) : Matcher :=
  { tiers := tiers, convention := Convention.ofSuffixes suffixes }

/-- Gather from one more statement. -/
def visit
    (matcher : Matcher)
    (endpoint : Endpoint)
    (reachable : List MethodId)
    (gathered : Gathered)
    (mapping : Mapping) : Gathered :=
  match matcher.tierOf? mapping reachable with
  | none => gathered
  | some tier =>
      { links := gathered.links ++ Match.linksOf endpoint mapping
        hits := upsert 0 (· + 1) tier gathered.hits }

/-- Gather from statements one after the other. -/
def loop
    (matcher : Matcher)
    (endpoint : Endpoint)
    (mappings : List Mapping)
    (reachable : List MethodId) : Gathered :=
  mappings.foldl (matcher.visit endpoint reachable) { links := [], hits := [] }

/-- A matcher claims a statement for the first of its tiers that holds. -/
theorem tierOf?_ofTiers_eq_some_iff
    {tiers : List Tier}
    {suffixes : List String}
    {mapping : Mapping}
    {reachable : List MethodId}
    {tier : Tier} :
    (ofTiers tiers suffixes).tierOf? mapping reachable = some tier ↔
      tier.IsFirst tiers suffixes reachable mapping := by
  rw [tierOf?, List.find?_eq_some_iff_append, Tier.IsFirst]
  simp only [ofTiers, Bool.not_eq_true', ← Bool.not_eq_true, Tier.holds_iff]
  constructor
  · rintro ⟨holds, before, later, split, refused⟩
    exact ⟨before, later, split, holds, refused⟩
  · rintro ⟨before, later, split, holds, refused⟩
    exact ⟨holds, before, later, split, refused⟩

/-- A matcher claims a statement exactly if one of its tiers is the first that holds. -/
theorem isSome_tierOf?_ofTiers_iff
    {tiers : List Tier}
    {suffixes : List String}
    {mapping : Mapping}
    {reachable : List MethodId} :
    ((ofTiers tiers suffixes).tierOf? mapping reachable).isSome = true ↔
      ∃ tier : Tier, tier.IsFirst tiers suffixes reachable mapping := by
  rw [Option.isSome_iff_exists]
  exact exists_congr fun _ => tierOf?_ofTiers_eq_some_iff

section Claims

variable
  (matcher : Matcher)
  (mappings : List Mapping)
  (reachable : List MethodId)

theorem map_tier_claims :
    (matcher.claims mappings reachable).map Claimed.tier =
      mappings.filterMap fun mapping => matcher.tierOf? mapping reachable := by
  rw [claims, List.map_filterMap]
  simp [Function.comp_def]

/-- The links of the claims, statement by statement. -/
theorem flatMap_linksOf_claims
    (endpoint : Endpoint) :
    ((matcher.claims mappings reachable).flatMap fun claim =>
        Match.linksOf endpoint claim.mapping) =
      mappings.flatMap fun mapping =>
        if (matcher.tierOf? mapping reachable).isSome then Match.linksOf endpoint mapping
        else [] := by
  induction mappings with
  | nil => rfl
  | cons mapping others inductionHypothesis =>
      rw [List.flatMap_cons, ← inductionHypothesis, claims, List.filterMap_cons]
      cases matcher.tierOf? mapping reachable with
      | none => rfl
      | some tier => rfl

theorem tierHits_run
    (endpoint : Endpoint) :
    (matcher.run endpoint mappings reachable).value.tierHits =
      hitsOf (fun mapping => matcher.tierOf? mapping reachable) mappings := by
  rw [value_run, Match.tierHits_eq_hitsOf, hitsOf, hitsOf, ← map_tier_claims,
    List.filterMap_eq_map']

theorem claims_concat
    (mapping : Mapping) :
    matcher.claims (mappings ++ [mapping]) reachable =
      matcher.claims mappings reachable ++
        ((matcher.tierOf? mapping reachable).map fun tier =>
          ({ mapping := mapping, tier := tier } : Claimed)).toList := by
  rw [claims, List.filterMap_append]
  cases claimed : matcher.tierOf? mapping reachable with
  | none => simp [claims, claimed]
  | some tier => simp [claims, claimed]

/-- The loop gathers what a run of the matcher gives, whether or not anything is reached. -/
theorem gathered_run
    (endpoint : Endpoint) :
    (matcher.run endpoint mappings reachable).value.gathered =
      matcher.loop endpoint mappings reachable := by
  rw [value_run]
  induction mappings using List.reverseRecOn with
  | nil => rfl
  | append_singleton mappings mapping inductionHypothesis =>
      rw [loop, List.foldl_append, ← loop, ← inductionHypothesis, claims_concat, List.foldl_cons,
        List.foldl_nil, visit]
      cases claimed : matcher.tierOf? mapping reachable with
      | none => simp
      | some tier =>
          simp [Match.gathered, Match.links, Match.tierHits_eq_hitsOf, hitsOf_concat]

end Claims

/-- A run of a matcher with any tiers attributes each statement to the first of them that holds, and
is what the loop over the statements gathers, even where nothing is reached. -/
theorem run_attributes
    (tiers : List Tier)
    (suffixes : List String)
    (endpoint : Endpoint)
    (mappings : List Mapping)
    (reachable : List MethodId) :
    (∀ mapping tier,
        (ofTiers tiers suffixes).tierOf? mapping reachable = some tier ↔
          tier.IsFirst tiers suffixes reachable mapping) ∧
      ((ofTiers tiers suffixes).run endpoint mappings reachable).value.Attributes tiers suffixes
        endpoint mappings reachable ∧
      ((ofTiers tiers suffixes).run endpoint mappings reachable).value.gathered =
        (ofTiers tiers suffixes).loop endpoint mappings reachable := by
  classical
  have attributed (mapping : Mapping) (tier : Tier) :
      (ofTiers tiers suffixes).tierOf? mapping reachable = some tier ↔
        tier.IsFirst tiers suffixes reachable mapping :=
    tierOf?_ofTiers_eq_some_iff
  refine ⟨attributed, ?_, gathered_run _ _ _ _⟩
  constructor
  case links_eq =>
    rw [value_run, Match.links, flatMap_linksOf_claims]
    exact List.flatMap_congr fun mapping _ =>
      Match.ite_linksOf endpoint mapping isSome_tierOf?_ofTiers_iff
  case mem_tierHits_iff =>
    intro tier count
    rw [tierHits_run, mem_hitsOf_iff]
    simp only [attributed]
  case pairwise_tierHits =>
    have ordered := pairwise_hitsOf
      (fun mapping => (ofTiers tiers suffixes).tierOf? mapping reachable) mappings
    simpa only [tierHits_run, attributed] using ordered
  case sum_tierHits =>
    rw [tierHits_run, sum_hitsOf]
    simp only [← isSome_tierOf?_ofTiers_iff, Bool.decide_eq_true]

end Matcher
end TableReach
