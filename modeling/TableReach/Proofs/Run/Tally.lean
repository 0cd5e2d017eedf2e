import TableReach.Proofs.Run.Accounting
import TableReach.Proofs.Matching.Attribution

/-!
# The tally of a run

The results of the endpoints are tallied one after the other.  The hits start at zero
for every active tier, and each result adds its own hits, entry by entry.  Since every
claim is made by an active tier, no entry is ever new, and the tally ends with the
hits that a report counts over all claims at once.
-/

namespace TableReach

/-- Adding entries to a table of different keys, all of which it has, adds them up key by key. -/
theorem foldl_upsert_add
    [DecidableEq κ]
    {keys : List κ}
    (different : keys.Nodup)
    {entries : List (κ × Nat)}
    (listed : ∀ entry ∈ entries, entry.1 ∈ keys)
    (value : κ → Nat) :
    entries.foldl (fun table entry => upsert 0 (· + entry.2) entry.1 table)
        (keys.map fun key => (key, value key)) =
      keys.map fun key =>
        (key, value key + ((entries.filter fun entry => entry.1 = key).map Prod.snd).sum) := by
  induction entries generalizing value with
  | nil => rfl
  | cons entry others inductionHypothesis =>
      obtain ⟨present, othersListed⟩ := List.forall_mem_cons.mp listed
      rw [List.foldl_cons, upsert_map_of_mem 0 _ different present,
        inductionHypothesis othersListed]
      apply List.map_congr_left
      intro key _
      by_cases same : key = entry.1
      · simp [same, Nat.add_assoc]
      · simp [same, Ne.symm same]

/-- What is tallied from the results of the endpoints. -/
structure Tally where
  /-- How many endpoints reach no terminal. -/
  withoutTerminals : Nat
  /-- The hits of each tier. -/
  hits : List (Tier × Nat)
  /-- The links. -/
  links : List Link

namespace Tally

/-- Enter a tier without hits. -/
def seed (hits : List (Tier × Nat)) (tier : Tier) : List (Tier × Nat) :=
  upsert 0 (fun _ => 0) tier hits

/-- Add the hits of a tier. -/
def addHits (hits : List (Tier × Nat)) (entry : Tier × Nat) : List (Tier × Nat) :=
  upsert 0 (· + entry.2) entry.1 hits

/-- Nothing is tallied yet, and every tier is entered. -/
def start (tiers : List Tier) : Tally :=
  { withoutTerminals := 0, hits := tiers.foldl seed [], links := [] }

/-- Tally one more result. -/
def add (tally : Tally) : Option Match → Tally
  | none => { tally with withoutTerminals := tally.withoutTerminals + 1 }
  | some found =>
      { tally with
        hits := found.tierHits.foldl addHits tally.hits
        links := tally.links ++ found.links }

/-- Tally all results. -/
def ofResults (tiers : List Tier) (results : List (Option Match)) : Tally :=
  results.foldl add (start tiers)

theorem ofResults_concat
    (tiers : List Tier)
    (results : List (Option Match))
    (result : Option Match) :
    ofResults tiers (results ++ [result]) = (ofResults tiers results).add result := by
  rw [ofResults, List.foldl_append]
  rfl

/-- A tier that is entered again keeps its place. -/
theorem foldl_seed (tiers : List Tier) :
    tiers.foldl seed [] = tiers.eraseDups.map fun tier => (tier, 0) := by
  have entered := tabulate_eq id 0 (fun _ (_ : Tier) => 0) tiers
  rw [List.map_id] at entered
  refine entered.trans (List.map_congr_left fun tier _ => ?_)
  -- Whatever a tier had, it is entered with no hits.
  induction tiers.filter fun other => id other = tier with
  | nil => rfl
  | cons other others inductionHypothesis => exact inductionHypothesis

end Tally

/-- The entries of a tier hold its claims. -/
theorem Match.sum_tierHits_of
    (found : Match)
    (tier : Tier) :
    ((found.tierHits.filter fun entry => entry.1 = tier).map Prod.snd).sum =
      (found.claims.map Claimed.tier).count tier := by
  have entries : found.tierHits.filter (fun entry => entry.1 = tier) =
      ((found.claims.map Claimed.tier).eraseDups.filter fun other => other = tier).map
        fun other => (other, (found.claims.map Claimed.tier).count other) := by
    rw [Match.tierHits, List.filter_map]
    rfl
  have once := (nodup_eraseDups (found.claims.map Claimed.tier)).count (a := tier)
  rw [entries, List.filter_eq, List.map_map, List.map_replicate, List.sum_replicate, once]
  by_cases claimed : tier ∈ (found.claims.map Claimed.tier).eraseDups
  · simp [claimed]
  · have absent : tier ∉ found.claims.map Claimed.tier :=
      fun listed => claimed (List.mem_eraseDups.mpr listed)
    simp [claimed, List.count_eq_zero.mpr absent]

namespace Engine

/-- One more match adds its hits entry by entry. -/
theorem totalHits_concat
    {tiers : List Tier}
    (found : List Match)
    {one : Match}
    (listed : ∀ claim ∈ one.claims, claim.tier ∈ tiers) :
    totalHits tiers (found ++ [one]) =
      one.tierHits.foldl Tally.addHits (totalHits tiers found) := by
  have present : ∀ entry ∈ one.tierHits, entry.1 ∈ tiers.eraseDups := by
    intro entry hit
    obtain ⟨tier, claimed, rfl⟩ := List.mem_map.mp hit
    obtain ⟨claim, made, rfl⟩ := List.mem_map.mp (List.mem_eraseDups.mp claimed)
    exact List.mem_eraseDups.mpr (listed claim made)
  refine Eq.trans ?_ (foldl_upsert_add (nodup_eraseDups tiers) present _).symm
  simp only [totalHits, Match.sum_tierHits_of, List.flatMap_append, List.flatMap_singleton,
    List.map_append, List.count_append]

/-- Where every claim is made by a tier that is entered, the tally ends with the hits of all
claims. -/
theorem tally_results
    {tiers : List Tier}
    {results : List (Option Match)}
    (listed : ∀ claim ∈ (results.filterMap id).flatMap Match.claims, claim.tier ∈ tiers) :
    Tally.ofResults tiers results =
      { withoutTerminals := (results.filter Option.isNone).length
        hits := totalHits tiers (results.filterMap id)
        links := (results.filterMap id).flatMap Match.links } := by
  -- The induction is on the last result, since the tally goes from the front.
  induction results using List.reverseRecOn with
  | nil =>
      rw [Tally.ofResults, List.foldl_nil, Tally.start, Tally.foldl_seed]
      simp [totalHits]
  | append_singleton results result inductionHypothesis =>
      simp only [List.filterMap_append, List.flatMap_append, List.mem_append] at listed
      rw [Tally.ofResults_concat, inductionHypothesis fun claim made => listed claim (.inl made)]
      cases result with
      | none => simp [Tally.add]
      | some found =>
          have own : ∀ claim ∈ found.claims, claim.tier ∈ tiers := by
            intro claim made
            exact listed claim (.inr (by simpa using made))
          simp [Tally.add, totalHits_concat _ own]

/-- Every run reports what is tallied from the results of its endpoints. -/
theorem run_tallies
    (settings : Settings)
    (evict : Eviction)
    (facts : Facts) :
    let report := ((ofSettings settings).run evict facts).value.1
    Tally.ofResults (ofSettings settings).matcher.tiers
        ((ofSettings settings).results facts
          (Preparation.ofSources settings.dialect facts.mappings).known) =
      { withoutTerminals := report.statistics.endpointsWithoutTerminals
        hits := report.statistics.tierHits
        links := report.links } := by
  intro report
  have concluded : report = _ := run_ofSettings settings evict facts
  rw [tally_results (tier_mem_of_results settings facts _), concluded]
  rfl

end Engine
end TableReach
