import TableReach.Matching.Matcher
import TableReach.Proofs.CallGraph.Exactness
import TableReach.Proofs.Text.Search

/-!
# Tiers said by what is reached

A tier compares a statement with the methods that an endpoint reaches.  Here that
is said of the set of those methods, and a matcher is shown to claim a statement
exactly if one of its active tiers holds.
-/

namespace TableReach

/-- The class of a method holds a text. -/
def ClassContains
    (id : MethodId)
    (text : String) : Prop :=
  ∃ className method, id.HasParts className method ∧ text.toList <:+: className.toList

namespace Tier

/-- A tier holds between a statement and the reached methods. -/
def Holds
    (tier : Tier)
    (suffixes : List String)
    (mapping : Mapping)
    (reached : MethodId → Prop) : Prop :=
  match tier with
  | exact => reached (MethodId.ofParts mapping.owner mapping.operationId)
  | simpleName => reached (MethodId.ofParts mapping.simpleOwner mapping.operationId)
  | looseSuffix =>
      ∃ id className, reached id ∧ id.HasParts className mapping.operationId ∧
        mapping.simpleOwner.toList <:+: className.toList
  | containment =>
      (∃ suffix ∈ suffixes, suffix ≠ "" ∧ suffix.toList <:+ mapping.simpleOwner.toList) ∧
        ∃ id, reached id ∧ ClassContains id mapping.simpleOwner

/-- No disabled name is the name of the tier, whatever the case of its letters. -/
def IsActive
    (disabled : List String)
    (tier : Tier) : Prop :=
  ∀ name ∈ disabled, Text.lowerAscii name ≠ Text.lowerAscii tier.name

instance (disabled : List String) : DecidablePred (IsActive disabled) := fun tier =>
  inferInstanceAs (Decidable (∀ name ∈ disabled, Text.lowerAscii name ≠ Text.lowerAscii tier.name))

/-- The class of an identifier holds a text. -/
theorem classHolds_iff
    {id : MethodId}
    {text : String} : classHolds id text = true ↔ ClassContains id text := by
  rw [classHolds, Text.contains_iff]
  constructor
  · intro present
    exact ⟨id.className, id.method, MethodId.hasParts_iff.mpr rfl, present⟩
  · rintro ⟨className, method, parts, present⟩
    rw [show id.className = className from congrArg Prod.fst (MethodId.hasParts_iff.mp parts)]
    exact present

/-- The class of an identifier holds a text, and its method has a name. -/
theorem classHolds_and_method_iff
    {id : MethodId}
    {text method : String} :
    (classHolds id text && id.method == method) = true ↔
      ∃ className, id.HasParts className method ∧ text.toList <:+: className.toList := by
  rw [Bool.and_eq_true, beq_iff_eq, classHolds, Text.contains_iff]
  constructor
  · rintro ⟨present, rfl⟩
    exact ⟨id.className, MethodId.hasParts_iff.mpr rfl, present⟩
  · rintro ⟨className, parts, present⟩
    have equal := MethodId.hasParts_iff.mp parts
    rw [show id.className = className from congrArg Prod.fst equal]
    exact ⟨present, congrArg Prod.snd equal⟩

/-- A tier holds with a list of methods exactly if it holds with their set. -/
theorem holds_iff
    (tier : Tier)
    (suffixes : List String)
    (mapping : Mapping)
    (reachable : List MethodId) :
    tier.holds (Convention.ofSuffixes suffixes) mapping reachable = true ↔
      tier.Holds suffixes mapping (· ∈ reachable) := by
  cases tier with
  | exact => simp [holds, Holds, Mapping.qualifiedId]
  | simpleName => simp [holds, Holds]
  | looseSuffix =>
      simp only [holds, Holds, List.any_eq_true, classHolds_and_method_iff]
      exact exists_congr fun id => exists_and_left.symm
  | containment =>
      simp only [holds, Holds, Bool.and_eq_true, Convention.isDataAccess_ofSuffixes_iff,
        List.any_eq_true, classHolds_iff]

/-- Nothing is matched where nothing is reached. -/
theorem exists_reached
    {tier : Tier}
    {suffixes : List String}
    {mapping : Mapping}
    {reached : MethodId → Prop}
    (holds : tier.Holds suffixes mapping reached) : ∃ id, reached id := by
  cases tier with
  | exact => exact ⟨_, holds⟩
  | simpleName => exact ⟨_, holds⟩
  | looseSuffix =>
      obtain ⟨id, _, reachedId, _⟩ := holds
      exact ⟨id, reachedId⟩
  | containment =>
      obtain ⟨_, id, reachedId, _⟩ := holds
      exact ⟨id, reachedId⟩

/-- A tier that holds keeps holding if more is reached and more endings are told. -/
theorem Holds.mono
    {tier : Tier}
    {suffixes moreSuffixes : List String}
    {mapping : Mapping}
    {reached moreReached : MethodId → Prop}
    (holds : tier.Holds suffixes mapping reached)
    (endings : ∀ suffix ∈ suffixes, suffix ≠ "" → suffix ∈ moreSuffixes)
    (reach : ∀ id, reached id → moreReached id) :
    tier.Holds moreSuffixes mapping moreReached := by
  cases tier with
  | exact => exact reach _ holds
  | simpleName => exact reach _ holds
  | looseSuffix =>
      obtain ⟨id, className, reachedId, parts⟩ := holds
      exact ⟨id, className, reach id reachedId, parts⟩
  | containment =>
      obtain ⟨⟨suffix, present, nonempty, ending⟩, id, reachedId, contains⟩ := holds
      exact ⟨⟨suffix, endings suffix present nonempty, nonempty, ending⟩,
        id, reach id reachedId, contains⟩

theorem holds_nil
    (tier : Tier)
    (convention : Convention)
    (mapping : Mapping) : tier.holds convention mapping [] = false := by
  cases tier <;> simp [holds]

theorem holds_congr
    (tier : Tier)
    (convention : Convention)
    (mapping : Mapping)
    {reachable others : List MethodId}
    (same : ∀ id, id ∈ reachable ↔ id ∈ others) :
    tier.holds convention mapping reachable = tier.holds convention mapping others := by
  rw [Bool.eq_iff_iff]
  cases tier <;> simp [holds, same]

end Tier

/-- The links of a statement with a known operation: its letter with each of its tables. -/
theorem Match.linksOf_eq
    (endpoint : Endpoint)
    {mapping : Mapping}
    (known : mapping.operation ≠ .unknown) :
    linksOf endpoint mapping =
      mapping.tables.eraseDups.map fun table =>
        { endpoint := endpoint, table := table
          code := mapping.operation.name.toList.headD ' ' } := by
  have letter : mapping.operation.code? = some (mapping.operation.name.toList.headD ' ') := by
    cases operation : mapping.operation with
    | select => rfl
    | insert => rfl
    | update => rfl
    | delete => rfl
    | unknown => exact absurd operation known
  unfold linksOf Link.derive?
  simp only [letter, Option.map_some]
  exact congrFun List.filterMap_eq_map _

namespace Matcher

theorem mem_tiers_without
    {disabled : List String}
    {convention : Convention}
    {tier : Tier} :
    tier ∈ (without disabled convention).tiers ↔ tier.IsActive disabled := by
  have listed : tier ∈ Tier.all := by
    cases tier <;> decide
  simp [without, listed, Tier.IsActive]

/-- A matcher claims a statement exactly if an active tier holds. -/
theorem isSome_tierOf?_iff
    (disabled suffixes : List String)
    (mapping : Mapping)
    (reachable : List MethodId) :
    ((without disabled (Convention.ofSuffixes suffixes)).tierOf? mapping reachable).isSome = true ↔
      ∃ tier : Tier, tier.IsActive disabled ∧ tier.Holds suffixes mapping (· ∈ reachable) := by
  simp only [tierOf?, List.find?_isSome, mem_tiers_without]
  exact exists_congr fun tier => and_congr_right fun _ => Tier.holds_iff _ _ _ _

theorem claims_congr
    (matcher : Matcher)
    (mappings : List Mapping)
    {reachable others : List MethodId}
    (same : ∀ id, id ∈ reachable ↔ id ∈ others) :
    matcher.claims mappings reachable = matcher.claims mappings others := by
  simp only [claims, tierOf?, Tier.holds_congr _ _ _ same]

/-- The statements that a matcher claims, in order. -/
theorem map_mapping_claims
    (matcher : Matcher)
    (mappings : List Mapping)
    (reachable : List MethodId) :
    (matcher.claims mappings reachable).map Claimed.mapping =
      mappings.filter fun mapping => (matcher.tierOf? mapping reachable).isSome := by
  induction mappings with
  | nil => rfl
  | cons mapping others inductionHypothesis =>
      rw [claims] at inductionHypothesis ⊢
      rw [List.filterMap_cons, List.filter_cons]
      cases matcher.tierOf? mapping reachable with
      | none => simpa using inductionHypothesis
      | some tier => simpa using inductionHypothesis

/-- Nothing is claimed where nothing is reached, so that what is claimed does not depend on looking
at that first. -/
theorem value_run
    (matcher : Matcher)
    (endpoint : Endpoint)
    (mappings : List Mapping)
    (reachable : List MethodId) :
    (matcher.run endpoint mappings reachable).value =
      { endpoint := endpoint, claims := matcher.claims mappings reachable } := by
  unfold run
  split
  · next nothing =>
      rw [List.isEmpty_iff.mp nothing]
      have unclaimed (mapping : Mapping) : matcher.tierOf? mapping [] = none := by
        rw [tierOf?, List.find?_eq_none]
        intro tier _ holds
        exact Bool.false_ne_true ((tier.holds_nil matcher.convention mapping).symm.trans holds)
      simp [claims, unclaimed]
  · rfl

end Matcher
end TableReach
