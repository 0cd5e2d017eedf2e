import TableReach.Proofs.Matching

/-!
# The chain of tiers

From tier to tier less is asked of a statement.  Where the owner of a statement
holds no `#`, its own identifier falls apart into the owner and the name of the
statement, so that whatever a precise tier claims the loose one claims as well.
Leaving precise tiers out then changes which tier a statement is attributed to, and
nothing else.
-/

namespace TableReach

namespace Tier

/-- What holds in a more precise tier holds in a less precise one. -/
structure IsChain
    (convention : Convention)
    (mapping : Mapping)
    (reachable : List MethodId) : Prop where
  /-- The statement's own method is one of a class that holds the owner. -/
  looseSuffix_of_exact :
    exact.holds convention mapping reachable = true →
      looseSuffix.holds convention mapping reachable = true
  /-- So is the method of the simple name. -/
  looseSuffix_of_simpleName :
    simpleName.holds convention mapping reachable = true →
      looseSuffix.holds convention mapping reachable = true
  /-- If the owner is of the data-access layer, the name of the method does not matter. -/
  containment_of_looseSuffix :
    looseSuffix.holds convention mapping reachable = true →
      convention.isDataAccess mapping.simpleOwner = true →
        containment.holds convention mapping reachable = true

/-- The name is that of one of the two tiers that compare whole identifiers, in any case. -/
def IsPreciseName (name : String) : Prop :=
  Text.lowerAscii name = Text.lowerAscii exact.name ∨
    Text.lowerAscii name = Text.lowerAscii simpleName.name

variable
  {convention : Convention}
  {mapping : Mapping}
  {reachable : List MethodId}

/-- A reached method of the statement's name makes the loose tier hold if its class ends with the
simple name of the owner. -/
theorem looseSuffix_holds_of_mem
    {className : String}
    (reached : MethodId.ofParts className mapping.operationId ∈ reachable)
    (plain : '#' ∉ className.toList)
    (ends : mapping.simpleOwner.toList <:+ className.toList) :
    looseSuffix.holds convention mapping reachable = true := by
  rw [holds, List.any_eq_true]
  refine ⟨_, reached, ?_⟩
  rw [classHolds_and_method_iff]
  exact ⟨className, ⟨plain, .inl rfl⟩, ends.isInfix⟩

/-- The tiers are a chain for a statement whose owner holds no `#`. -/
theorem isChain
    (convention : Convention)
    (reachable : List MethodId)
    (plain : '#' ∉ mapping.owner.toList) : IsChain convention mapping reachable where
  looseSuffix_of_exact holds := by
    apply looseSuffix_holds_of_mem (List.contains_iff_mem.mp holds) plain
    exact simpleName_isSuffix mapping.owner
  looseSuffix_of_simpleName holds := by
    apply looseSuffix_holds_of_mem (List.contains_iff_mem.mp holds)
    · intro present
      exact plain ((simpleName_isSuffix mapping.owner).subset present)
    · exact List.suffix_rfl
  containment_of_looseSuffix holds dataAccess := by
    simp only [Tier.holds, List.any_eq_true, Bool.and_eq_true] at holds ⊢
    obtain ⟨id, reached, contains, _⟩ := holds
    exact ⟨dataAccess, id, reached, contains⟩

end Tier

namespace Matcher

/-- With the loose tier active, a statement whose owner holds no `#` is claimed if that tier holds
or the last one is active and holds. -/
theorem isSome_tierOf?_iff_of_looseSuffix
    {matcher : Matcher}
    {mapping : Mapping}
    (plain : '#' ∉ mapping.owner.toList)
    (loose : Tier.looseSuffix ∈ matcher.tiers)
    (reachable : List MethodId) :
    (matcher.tierOf? mapping reachable).isSome = true ↔
      Tier.looseSuffix.holds matcher.convention mapping reachable = true ∨
        Tier.containment ∈ matcher.tiers ∧
          Tier.containment.holds matcher.convention mapping reachable = true := by
  have chain := Tier.isChain matcher.convention reachable plain
  rw [tierOf?, List.find?_isSome]
  constructor
  · rintro ⟨tier, listed, holds⟩
    cases tier with
    | exact => exact .inl (chain.looseSuffix_of_exact holds)
    | simpleName => exact .inl (chain.looseSuffix_of_simpleName holds)
    | looseSuffix => exact .inl holds
    | containment => exact .inr ⟨listed, holds⟩
  · rintro (holds | ⟨listed, holds⟩)
    · exact ⟨_, loose, holds⟩
    · exact ⟨_, listed, holds⟩

/-- Disabling precise tiers leaves the others as they are. -/
theorem mem_tiers_without_append
    {disabled precise : List String}
    (named : ∀ name ∈ precise, Tier.IsPreciseName name)
    (convention : Convention)
    {tier : Tier}
    (imprecise : tier = .looseSuffix ∨ tier = .containment) :
    tier ∈ (without (disabled ++ precise) convention).tiers ↔
      tier ∈ (without disabled convention).tiers := by
  have other : tier.IsActive precise := by
    intro name listed
    rcases imprecise with rfl | rfl
    all_goals
      rcases named name listed with same | same
      all_goals
        rw [same]
        decide
  rw [mem_tiers_without, mem_tiers_without, Tier.IsActive, List.forall_mem_append]
  exact and_iff_left other

/-- The tiers are a chain for a statement whose owner holds no `#`.  As long as the loose tier is
active, disabling precise tiers leaves the links of such statements as they are, and which of them
are claimed. -/
theorem links_run_without_precise
    (convention : Convention)
    (reachable : List MethodId) :
    (∀ mapping : Mapping, '#' ∉ mapping.owner.toList →
        Tier.IsChain convention mapping reachable) ∧
      ∀ (endpoint : Endpoint) (mappings : List Mapping) (disabled precise : List String),
        (∀ mapping ∈ mappings, '#' ∉ mapping.owner.toList) →
        Tier.looseSuffix.IsActive disabled →
        (∀ name ∈ precise, Tier.IsPreciseName name) →
          ((without (disabled ++ precise) convention).run endpoint mappings reachable).value.links =
              ((without disabled convention).run endpoint mappings reachable).value.links ∧
            ((without (disabled ++ precise) convention).run endpoint mappings
                reachable).value.claims.map Claimed.mapping =
              ((without disabled convention).run endpoint mappings reachable).value.claims.map
                Claimed.mapping := by
  refine ⟨fun mapping plain => Tier.isChain convention reachable plain, ?_⟩
  intro endpoint mappings disabled precise plain active named
  have loose : Tier.looseSuffix ∈ (without disabled convention).tiers :=
    mem_tiers_without.mpr active
  have claimed : ((without (disabled ++ precise) convention).claims mappings reachable).map
      Claimed.mapping =
        ((without disabled convention).claims mappings reachable).map Claimed.mapping := by
    rw [map_mapping_claims, map_mapping_claims]
    apply List.filter_congr
    intro mapping listed
    rw [Bool.eq_iff_iff, isSome_tierOf?_iff_of_looseSuffix (plain mapping listed) loose,
      isSome_tierOf?_iff_of_looseSuffix (plain mapping listed)
        ((mem_tiers_without_append named convention (.inl rfl)).mpr loose),
      mem_tiers_without_append named convention (.inr rfl)]
    rfl
  rw [value_run, value_run]
  refine ⟨?_, claimed⟩
  have links (claims : List Claimed) :
      Match.links { endpoint := endpoint, claims := claims } =
        (claims.map Claimed.mapping).flatMap (Match.linksOf endpoint) := by
    rw [List.flatMap_map]
    rfl
  rw [links, links, claimed]

/-- A statement that lists users, owned by a class of a package. -/
def userListing : Mapping :=
  { owner := "com.example.UserMapper", operationId := "findAll", operation := .select
    rawText := none, tables := ["users"] }

/-- The endpoint that lists users. -/
def userEndpoint : Endpoint :=
  { httpMethod := "GET", urlPath := "/users", entryClass := "UserController", entryMethod := "list"
    packageName := "com.example" }

/-- The loose tier alone finds the link of a statement whose own method is reached. -/
theorem links_of_userListing :
    ((without (["containment"] ++ ["EXACT", "simple-name"]) Convention.usual).run userEndpoint
        [userListing] ["com.example.UserMapper#findAll"]).value.links =
      [{ endpoint := userEndpoint, table := "users", code := 'S' }] := by
  have plain : ∀ mapping ∈ [userListing], '#' ∉ mapping.owner.toList := by
    rw [List.forall_mem_singleton]
    decide
  have active : Tier.looseSuffix.IsActive ["containment"] := by
    decide
  have named : ∀ name ∈ ["EXACT", "simple-name"], Tier.IsPreciseName name := by
    simp only [List.forall_mem_cons, Tier.IsPreciseName]
    decide
  have same := (links_run_without_precise Convention.usual ["com.example.UserMapper#findAll"]).2
    userEndpoint [userListing] ["containment"] ["EXACT", "simple-name"] plain active named
  rw [same.1]
  decide

end Matcher
end TableReach
