import TableReach.Proofs.Matching.Attribution

/-!
# Strategies of any kind

What a matcher tries need not be a tier.  A strategy is any condition on a statement
and the reached methods, under a name, and a matcher may have any strategies in any
order.  Strategies of one name share their hits.

Where nothing is reached, no strategy is asked.  That is what the loop over the
statements gives exactly if no strategy holds of nothing, as it is for the tiers.
-/

namespace TableReach

/-- A named condition on a statement and the reached methods. -/
structure Strategy where
  /-- The name. -/
  name : String
  /-- The condition. -/
  holds : Mapping → List MethodId → Bool

/-- The strategy is the first of some strategies that holds. -/
def Strategy.IsFirst
    (strategies : List Strategy)
    (reachable : List MethodId)
    (mapping : Mapping)
    (strategy : Strategy) : Prop :=
  ∃ before later, strategies = before ++ strategy :: later ∧
    strategy.holds mapping reachable = true ∧
    ∀ earlier ∈ before, earlier.holds mapping reachable = false

/-- Links and hits that strategies have gathered. -/
structure NamedHits where
  /-- The links. -/
  links : List Link
  /-- How many statements the strategies of each name claimed. -/
  hits : List (String × Nat)

namespace Strategies

/-- A statement is attributed to a name: that of the first strategy that holds. -/
def Attributed
    (strategies : List Strategy)
    (reachable : List MethodId)
    (mapping : Mapping)
    (name : String) : Prop :=
  ∃ strategy : Strategy, strategy.IsFirst strategies reachable mapping ∧ strategy.name = name

/-- No strategy holds where nothing is reached. -/
def NeedReach (strategies : List Strategy) : Prop :=
  ∀ strategy ∈ strategies, ∀ mapping, strategy.holds mapping [] = false

/-- The name of the first strategy that holds. -/
def nameOf?
    (strategies : List Strategy)
    (mapping : Mapping)
    (reachable : List MethodId) : Option String :=
  (strategies.find? fun strategy => strategy.holds mapping reachable).map Strategy.name

/-- Gather from one more statement. -/
def visit
    (strategies : List Strategy)
    (endpoint : Endpoint)
    (reachable : List MethodId)
    (gathered : NamedHits)
    (mapping : Mapping) : NamedHits :=
  match nameOf? strategies mapping reachable with
  | none => gathered
  | some name =>
      { links := gathered.links ++ Match.linksOf endpoint mapping
        hits := upsert 0 (· + 1) name gathered.hits }

/-- Gather from statements one after the other. -/
def loop
    (strategies : List Strategy)
    (endpoint : Endpoint)
    (mappings : List Mapping)
    (reachable : List MethodId) : NamedHits :=
  mappings.foldl (visit strategies endpoint reachable) { links := [], hits := [] }

/-- Gather from statements, where anything is reached. -/
def run
    (strategies : List Strategy)
    (endpoint : Endpoint)
    (mappings : List Mapping)
    (reachable : List MethodId) : NamedHits :=
  if reachable.isEmpty then { links := [], hits := [] }
  else loop strategies endpoint mappings reachable

end Strategies

open Classical in
/-- Links and hits are those of the statements that strategies claim. -/
structure NamedHits.Attributes
    (strategies : List Strategy)
    (endpoint : Endpoint)
    (mappings : List Mapping)
    (reachable : List MethodId)
    (found : NamedHits) : Prop where
  /-- Statement by statement there is a link for each table, if the statement is attributed and its
  operation is known. -/
  links_eq :
    found.links = mappings.flatMap fun mapping =>
      if (∃ name, Strategies.Attributed strategies reachable mapping name) ∧
          mapping.operation ≠ .unknown then
        mapping.tables.eraseDups.map fun table =>
          { endpoint := endpoint, table := table
            code := mapping.operation.name.toList.headD ' ' }
      else []
  /-- A name has hits if a statement is attributed to it, and each such statement is one. -/
  mem_hits_iff :
    ∀ name count, (name, count) ∈ found.hits ↔
      (∃ mapping ∈ mappings, Strategies.Attributed strategies reachable mapping name) ∧
        count = mappings.countP fun mapping =>
          Strategies.Attributed strategies reachable mapping name
  /-- The names come in the order of their first hits. -/
  pairwise_hits :
    (found.hits.map Prod.fst).Pairwise fun earlier later =>
      mappings.findIdx (fun mapping =>
          Strategies.Attributed strategies reachable mapping earlier) <
        mappings.findIdx (fun mapping =>
          Strategies.Attributed strategies reachable mapping later)
  /-- All hits together are the attributed statements, whether or not their operation is known. -/
  sum_hits :
    (found.hits.map Prod.snd).sum = mappings.countP fun mapping =>
      ∃ name, Strategies.Attributed strategies reachable mapping name

namespace Strategies

variable
  (strategies : List Strategy)
  (endpoint : Endpoint)
  (mappings : List Mapping)
  (reachable : List MethodId)

theorem nameOf?_eq_some_iff
    {strategies : List Strategy}
    {mapping : Mapping}
    {reachable : List MethodId}
    {name : String} :
    nameOf? strategies mapping reachable = some name ↔
      Attributed strategies reachable mapping name := by
  simp only [nameOf?, Option.map_eq_some_iff, List.find?_eq_some_iff_append, Attributed,
    Strategy.IsFirst, Bool.not_eq_true']
  constructor
  · rintro ⟨strategy, ⟨holds, before, later, split, refused⟩, named⟩
    exact ⟨strategy, ⟨before, later, split, holds, refused⟩, named⟩
  · rintro ⟨strategy, ⟨before, later, split, holds, refused⟩, named⟩
    exact ⟨strategy, ⟨holds, before, later, split, refused⟩, named⟩

theorem isSome_nameOf?_iff
    {strategies : List Strategy}
    {mapping : Mapping}
    {reachable : List MethodId} :
    (nameOf? strategies mapping reachable).isSome = true ↔
      ∃ name, Attributed strategies reachable mapping name := by
  rw [Option.isSome_iff_exists]
  exact exists_congr fun _ => nameOf?_eq_some_iff

theorem loop_concat
    (mapping : Mapping) :
    loop strategies endpoint (mappings ++ [mapping]) reachable =
      visit strategies endpoint reachable (loop strategies endpoint mappings reachable)
        mapping := by
  rw [loop, List.foldl_append]
  rfl

/-- The loop gathers the links of the claimed statements and counts their names. -/
theorem loop_eq :
    loop strategies endpoint mappings reachable =
      { links := mappings.flatMap fun mapping =>
          if (nameOf? strategies mapping reachable).isSome then Match.linksOf endpoint mapping
          else []
        hits := hitsOf (fun mapping => nameOf? strategies mapping reachable) mappings } := by
  induction mappings using List.reverseRecOn with
  | nil => rfl
  | append_singleton mappings mapping inductionHypothesis =>
      rw [loop_concat, inductionHypothesis, visit]
      cases claimed : nameOf? strategies mapping reachable with
      | none => simp [claimed, hitsOf_concat]
      | some name => simp [claimed, hitsOf_concat]

/-- Whatever the strategies are, the loop attributes each statement to the first that holds. -/
theorem attributes_loop :
    (loop strategies endpoint mappings reachable).Attributes strategies endpoint mappings
      reachable := by
  classical
  constructor <;> rw [loop_eq]
  case links_eq =>
    exact List.flatMap_congr fun mapping _ =>
      Match.ite_linksOf endpoint mapping isSome_nameOf?_iff
  case mem_hits_iff =>
    intro name count
    rw [mem_hitsOf_iff]
    simp only [nameOf?_eq_some_iff]
  case pairwise_hits =>
    have ordered := pairwise_hitsOf
      (fun mapping => nameOf? strategies mapping reachable) mappings
    simpa only [nameOf?_eq_some_iff] using ordered
  case sum_hits =>
    rw [sum_hitsOf]
    simp only [← isSome_nameOf?_iff, Bool.decide_eq_true]

/-- A run that asks no strategy where nothing is reached gives what the loop gives exactly if no
strategy holds of nothing. -/
theorem run_eq_loop_iff :
    (∀ mappings reachable,
        run strategies endpoint mappings reachable =
          loop strategies endpoint mappings reachable) ↔
      NeedReach strategies := by
  constructor
  · intro agrees strategy listed mapping
    -- One statement tells: where a strategy holds of nothing, the loop counts a hit of it.
    have empty : loop strategies endpoint [mapping] [] = { links := [], hits := [] } :=
      (agrees [mapping] []).symm
    rw [← Bool.not_eq_true]
    intro holds
    have claimed : (strategies.find? fun strategy => strategy.holds mapping []).isSome := by
      rw [List.find?_isSome]
      exact ⟨strategy, listed, holds⟩
    obtain ⟨first, found⟩ := Option.isSome_iff_exists.mp claimed
    simp [loop, visit, nameOf?, found, upsert] at empty
  · intro needReach mappings reachable
    unfold run
    split
    · next nothing =>
        rw [List.isEmpty_iff.mp nothing]
        have unclaimed (mapping : Mapping) : nameOf? strategies mapping [] = none := by
          rw [nameOf?, Option.map_eq_none_iff, List.find?_eq_none]
          intro strategy listed holds
          exact Bool.false_ne_true ((needReach strategy listed mapping).symm.trans holds)
        simp [loop_eq, unclaimed, hitsOf, tabulate]
    · rfl

/-- A run attributes each statement to the first strategy that holds, if something is reached or
no strategy holds of nothing. -/
theorem attributes_run
    {strategies : List Strategy}
    {reachable : List MethodId}
    (asked : reachable ≠ [] ∨ NeedReach strategies) :
    (run strategies endpoint mappings reachable).Attributes strategies endpoint mappings
      reachable := by
  rcases asked with reached | needReach
  · rw [run, if_neg (by simpa using reached)]
    exact attributes_loop strategies endpoint mappings reachable
  · rw [(run_eq_loop_iff strategies endpoint).mpr needReach]
    exact attributes_loop strategies endpoint mappings reachable

end Strategies

/-- A tier with a convention is a strategy. -/
def Tier.strategy
    (convention : Convention)
    (tier : Tier) : Strategy :=
  { name := tier.name, holds := tier.holds convention }

theorem Tier.name_injective : Function.Injective Tier.name := by
  intro first second same
  cases first <;> cases second <;> simp [name] at same ⊢

/-- The hits of tiers under their names. -/
def Gathered.named (gathered : Gathered) : NamedHits :=
  { links := gathered.links
    hits := gathered.hits.map fun hit => (hit.1.name, hit.2) }

namespace Matcher

variable (matcher : Matcher)

/-- The tiers of a matcher as strategies. -/
def strategies : List Strategy :=
  matcher.tiers.map (Tier.strategy matcher.convention)

theorem needReach_strategies : Strategies.NeedReach matcher.strategies := by
  intro strategy listed mapping
  obtain ⟨tier, _, rfl⟩ := List.mem_map.mp listed
  exact tier.holds_nil matcher.convention mapping

theorem nameOf?_strategies
    (mapping : Mapping)
    (reachable : List MethodId) :
    Strategies.nameOf? matcher.strategies mapping reachable =
      (matcher.tierOf? mapping reachable).map Tier.name := by
  rw [Strategies.nameOf?, strategies, List.find?_map, Option.map_map]
  rfl

/-- One statement is gathered alike, by its tier or by the name of its tier. -/
theorem visit_strategies
    (endpoint : Endpoint)
    (reachable : List MethodId)
    (gathered : Gathered)
    (mapping : Mapping) :
    Strategies.visit matcher.strategies endpoint reachable gathered.named mapping =
      (matcher.visit endpoint reachable gathered mapping).named := by
  rw [Strategies.visit, nameOf?_strategies, visit]
  cases matcher.tierOf? mapping reachable with
  | none => rfl
  | some tier =>
      simp only [Option.map_some, Gathered.named]
      rw [upsert_map_key 0 (· + 1) Tier.name_injective]

theorem loop_strategies
    (endpoint : Endpoint)
    (mappings : List Mapping)
    (reachable : List MethodId) :
    Strategies.loop matcher.strategies endpoint mappings reachable =
      (matcher.loop endpoint mappings reachable).named := by
  induction mappings using List.reverseRecOn with
  | nil => rfl
  | append_singleton mappings mapping inductionHypothesis =>
      rw [Strategies.loop_concat, inductionHypothesis, visit_strategies, loop, loop,
        List.foldl_append]
      rfl

/-- A matcher runs as its tiers do as strategies. -/
theorem run_strategies
    (endpoint : Endpoint)
    (mappings : List Mapping)
    (reachable : List MethodId) :
    Strategies.run matcher.strategies endpoint mappings reachable =
      (matcher.run endpoint mappings reachable).value.gathered.named := by
  rw [(Strategies.run_eq_loop_iff _ endpoint).mpr matcher.needReach_strategies, loop_strategies,
    gathered_run]

end Matcher
end TableReach
