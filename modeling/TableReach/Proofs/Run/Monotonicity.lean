import TableReach.Proofs.Run.Links
import Mathlib.Data.List.Flatten

/-!
# More calls and laxer settings

More calls lead to more methods, and laxer settings reach and match more of them.
So each step from calls to links keeps what it gave before: a walk stays a walk, a
method that is reached stays reached, and a statement that is claimed stays claimed,
though perhaps by another tier.  Hence no link is lost and no two links change places.

Calls that are listed in another order, or more than once, are more calls in both
directions.  Nothing in a report depends on them but through the set they make up.
-/

namespace TableReach

/-- A limit goes no further than a laxer one, where zero stands for no limit. -/
def LimitLe (limit laxer : Nat) : Prop :=
  laxer = 0 ∨ limit ≠ 0 ∧ limit ≤ laxer

/-- Settings that relax others: they read the same dialect and analyse the same packages, follow
calls at least as far, tell at least the same endings that are not empty, and disable at most the
same tiers. -/
structure Settings.Relaxes (lax strict : Settings) : Prop where
  /-- Statements are read the same way. -/
  dialect_eq : lax.dialect = strict.dialect
  /-- The same packages are analysed. -/
  packages_eq : lax.packages = strict.packages
  /-- Calls are followed at least as far. -/
  maxDepth_le : LimitLe strict.maxDepth lax.maxDepth
  /-- Every ending that is not empty is kept. -/
  suffixes_subset : ∀ suffix ∈ strict.suffixes, suffix ≠ "" → suffix ∈ lax.suffixes
  /-- Every disabled tier was disabled before. -/
  disabled_subset : ∀ tier : Tier, ¬ tier.IsActive lax.disabled → ¬ tier.IsActive strict.disabled

/-- Facts that extend others by calls: the endpoints and the statements are the same. -/
structure Facts.Extends (further facts : Facts) : Prop where
  /-- The endpoints are the same. -/
  endpoints_eq : further.endpoints = facts.endpoints
  /-- The statements are the same. -/
  mappings_eq : further.mappings = facts.mappings
  /-- Every call is kept. -/
  calls_subset : ∀ caller callee,
    Calls facts.callEdges caller callee → Calls further.callEdges caller callee

theorem LimitLe.refl (limit : Nat) : LimitLe limit limit := by
  unfold LimitLe
  omega

theorem WithinLimit.mono
    {limit laxer length : Nat}
    (allowed : WithinLimit limit length)
    (le : LimitLe limit laxer) : WithinLimit laxer length := by
  unfold WithinLimit LimitLe at *
  omega

theorem InDataAccessLayer.mono
    {suffixes more : List String}
    {id : MethodId}
    (inside : InDataAccessLayer suffixes id)
    (endings : ∀ suffix ∈ suffixes, suffix ≠ "" → suffix ∈ more) :
    InDataAccessLayer more id := by
  obtain ⟨className, method, parts, suffix, present, nonempty, ending⟩ := inside
  exact ⟨className, method, parts, suffix, endings suffix present nonempty, nonempty, ending⟩

theorem Reached.mono
    {edges further : List CallEdge}
    {suffixes more : List String}
    {limit laxer : Nat}
    {entry id : MethodId}
    (reached : Reached edges suffixes limit entry id)
    (calls : ∀ caller callee, Calls edges caller callee → Calls further caller callee)
    (endings : ∀ suffix ∈ suffixes, suffix ≠ "" → suffix ∈ more)
    (le : LimitLe limit laxer) : Reached further more laxer entry id := by
  obtain ⟨different, ⟨length, positive, allowed, walk⟩, inside⟩ := reached
  exact ⟨different, ⟨length, positive, allowed.mono le, walk.mono calls⟩, inside.mono endings⟩

/-- A statement that is claimed stays claimed. -/
theorem Settings.Claims.mono
    {lax strict : Settings}
    {edges further : List CallEdge}
    {endpoint : Endpoint}
    {mapping : Mapping}
    (claims : strict.Claims edges endpoint mapping)
    (relaxes : lax.Relaxes strict)
    (calls : ∀ caller callee, Calls edges caller callee → Calls further caller callee) :
    lax.Claims further endpoint mapping := by
  obtain ⟨tier, active, holds⟩ := claims
  refine ⟨tier, not_imp_not.mp (relaxes.disabled_subset tier) active, ?_⟩
  apply holds.mono relaxes.suffixes_subset
  intro id reached
  exact reached.mono calls relaxes.suffixes_subset relaxes.maxDepth_le

namespace Engine

/-- The links of an endpoint stay, in their order. -/
theorem links_analyze_sublist
    {lax strict : Settings}
    {edges further : List CallEdge}
    (relaxes : lax.Relaxes strict)
    (calls : ∀ caller callee, Calls edges caller callee → Calls further caller callee)
    (mappings : List Mapping)
    (endpoint : Endpoint) :
    (((ofSettings strict).analyze (CallGraph.ofEdges edges) mappings
        endpoint).value.toList.flatMap Match.links).Sublist
      (((ofSettings lax).analyze (CallGraph.ofEdges further) mappings
        endpoint).value.toList.flatMap Match.links) := by
  -- The tier that claims a statement may change, so the claims themselves are no subsequence;
  -- the statements that are claimed are one.
  rw [links_analyze, links_analyze]
  apply List.Sublist.flatMap
  apply List.monotone_filter_right
  intro mapping claimed
  rw [isSome_tierOf?_terminals] at claimed ⊢
  exact claimed.mono relaxes calls

/-- More calls and laxer settings lose no link and change no order: the links before are a
subsequence of the links after. -/
theorem links_sublist_of_relaxes
    {lax strict : Settings}
    {further facts : Facts}
    (relaxes : lax.Relaxes strict)
    (extension : further.Extends facts)
    (evict other : Eviction) :
    (((ofSettings strict).run evict facts).value.1.links).Sublist
      ((ofSettings lax).run other further).value.1.links := by
  have analyzed : (ofSettings lax).analyzed further = (ofSettings strict).analyzed facts := by
    have packages : (ofSettings lax).packages = (ofSettings strict).packages :=
      relaxes.packages_eq
    rw [Engine.analyzed, packages, extension.endpoints_eq]
    rfl
  rw [run_ofSettings, run_ofSettings, links_conclude, links_conclude, analyzed,
    relaxes.dialect_eq, extension.mappings_eq]
  apply List.Sublist.flatMap_right
  intro endpoint _
  exact links_analyze_sublist relaxes extension.calls_subset _ endpoint

/-- A second way to a method, a deeper one to another, an ending more and a tier more. -/
theorem links_kept_when_relaxed :
    let strict : Settings :=
      { Settings.usual with suffixes := ["Mapper", ""], maxDepth := 2, disabled := ["Containment"] }
    let lax : Settings :=
      { Settings.usual with suffixes := ["Dao", "Mapper"], disabled := [] }
    let facts : Facts :=
      { endpoints := [⟨"get", "/users", "Users", "list", ""⟩]
        callEdges := [⟨"Users", "list", "Service", "all"⟩, ⟨"Service", "all", "UserMapper", "find"⟩]
        mappings :=
          [⟨"AuditDao", "note", .insert, none, ["audit"]⟩,
            ⟨"UserMapper", "find", .select, none, ["users"]⟩,
            ⟨"UserMapper", "drop", .delete, none, ["users"]⟩]
        batchJobs := [] }
    let further : Facts :=
      { facts with
        callEdges :=
          [⟨"UserMapper", "find", "AuditDao", "note"⟩, ⟨"Users", "list", "UserMapper", "find"⟩] ++
            facts.callEdges }
    lax.Relaxes strict ∧ further.Extends facts ∧
      ((ofSettings strict).run .oldest facts).value.1.links.length = 1 ∧
      ((ofSettings lax).run .oldest further).value.1.links.length = 3 ∧
      (((ofSettings strict).run .oldest facts).value.1.links).Sublist
        ((ofSettings lax).run .oldest further).value.1.links := by
  intro strict lax facts further
  have relaxes : lax.Relaxes strict :=
    { dialect_eq := rfl
      packages_eq := rfl
      maxDepth_le := Or.inl rfl
      suffixes_subset := by decide
      disabled_subset := by
        intro tier disabled
        cases tier <;> exact absurd (by decide) disabled }
  have extension : further.Extends facts :=
    { endpoints_eq := rfl
      mappings_eq := rfl
      calls_subset := by
        rintro caller callee ⟨edge, present, ends⟩
        exact ⟨edge, List.mem_append_right _ present, ends⟩ }
  exact ⟨relaxes, extension, by decide +kernel, by decide +kernel,
    links_sublist_of_relaxes relaxes extension .oldest .oldest⟩

/-- More calls lead to every terminal that there was before. -/
theorem terminals_subset
    (settings : Settings)
    {edges further : List CallEdge}
    (calls : ∀ caller callee, Calls edges caller callee → Calls further caller callee)
    (endpoint : Endpoint) :
    terminals settings edges endpoint ⊆ terminals settings further endpoint := by
  intro id terminal
  have reached := (CallGraph.mem_terminals_iff _ _ _ _ _).mp terminal
  refine (CallGraph.mem_terminals_iff _ _ _ _ _).mpr ?_
  exact reached.mono calls (fun _ present _ => present) (LimitLe.refl _)

/-- What is found for an endpoint depends on the calls as a set. -/
theorem value_analyze_congr
    (settings : Settings)
    {edges others : List CallEdge}
    (same : ∀ caller callee, Calls edges caller callee ↔ Calls others caller callee)
    (mappings : List Mapping)
    (endpoint : Endpoint) :
    ((ofSettings settings).analyze (CallGraph.ofEdges edges) mappings endpoint).value =
      ((ofSettings settings).analyze (CallGraph.ofEdges others) mappings endpoint).value := by
  have members (id : MethodId) :
      id ∈ terminals settings edges endpoint ↔ id ∈ terminals settings others endpoint := by
    constructor
    · intro terminal
      exact terminals_subset settings (fun _ _ => (same _ _).mp) endpoint terminal
    · intro terminal
      exact terminals_subset settings (fun _ _ => (same _ _).mpr) endpoint terminal
  have empty : (terminals settings edges endpoint).isEmpty =
      (terminals settings others endpoint).isEmpty := by
    rw [Bool.eq_iff_iff, List.isEmpty_iff, List.isEmpty_iff, List.eq_nil_iff_forall_not_mem,
      List.eq_nil_iff_forall_not_mem]
    exact forall_congr' fun id => not_congr (members id)
  rw [value_analyze, value_analyze, empty, Matcher.claims_congr _ _ members]

/-- A report does not depend on the order in which calls are listed, nor on how often.  Whatever
the settings, facts that differ in their list of calls alone, where the lists hold the same calls
from one method to another, have the same report: links and their order, statistics, dropped
statements and batch jobs. -/
theorem report_independent_of_call_order
    (settings : Settings)
    (evict other : Eviction)
    (facts : Facts)
    (edges : List CallEdge)
    (same : ∀ caller callee, Calls facts.callEdges caller callee ↔ Calls edges caller callee) :
    ((ofSettings settings).run evict facts).value.1 =
      ((ofSettings settings).run other { facts with callEdges := edges }).value.1 := by
  rw [run_ofSettings, run_ofSettings]
  have found (mappings : List Mapping) :
      (ofSettings settings).results facts mappings =
        (ofSettings settings).results { facts with callEdges := edges } mappings := by
    apply List.map_congr_left
    intro endpoint _
    exact value_analyze_congr settings same mappings endpoint
  rw [found]
  simp only [conclude, CallGraph.nodeCount_congr same, CallGraph.edgeCount_congr same]
  rfl

/-- Two ways to a method, listed backwards and one of the calls twice. -/
theorem report_of_reversed_calls :
    let facts : Facts :=
      { endpoints := [⟨"get", "/users", "Users", "list", ""⟩]
        callEdges :=
          [⟨"Users", "list", "Service", "all"⟩, ⟨"Users", "list", "UserMapper", "find"⟩,
            ⟨"Service", "all", "UserMapper", "find"⟩]
        mappings := [⟨"UserMapper", "find", .select, none, ["users"]⟩]
        batchJobs := [] }
    let edges := facts.callEdges.reverse ++ facts.callEdges.take 1
    (∀ caller callee, Calls facts.callEdges caller callee ↔ Calls edges caller callee) ∧
      ((ofSettings Settings.usual).run .oldest facts).value.1.links.length = 1 ∧
      ((ofSettings Settings.usual).run .oldest facts).value.1 =
        ((ofSettings Settings.usual).run .oldest { facts with callEdges := edges }).value.1 := by
  intro facts edges
  have same (caller callee : MethodId) :
      Calls facts.callEdges caller callee ↔ Calls edges caller callee := by
    simp only [Calls, edges, List.mem_append, List.mem_reverse]
    constructor
    · rintro ⟨edge, present, ends⟩
      exact ⟨edge, Or.inl present, ends⟩
    · rintro ⟨edge, present | present, ends⟩
      · exact ⟨edge, present, ends⟩
      · exact ⟨edge, List.mem_of_mem_take present, ends⟩
  exact ⟨same, by decide +kernel,
    report_independent_of_call_order Settings.usual .oldest .oldest facts edges same⟩

end Engine
end TableReach
