import TableReach.Proofs.CallGraph.Exactness

/-!
# Limits of a search

A limit cuts a search off and changes nothing before the cut: the layers within a
limit are the first layers of every search that goes further.  A search that was not
cut off has met everything, since a method beyond its limit would be called from one
at the limit.
-/

namespace TableReach
namespace CallGraph

section Prefix

variable (graph : CallGraph)

/-- Fewer layers are the first of more layers. -/
theorem layersFrom_isPrefix
    {limit laxer : Nat}
    (le : limit ≤ laxer)
    (seen frontier : List MethodId) :
    graph.layersFrom limit seen frontier <+: graph.layersFrom laxer seen frontier := by
  induction limit generalizing laxer seen frontier with
  | zero => exact List.nil_prefix
  | succ limit inductionHypothesis =>
      obtain ⟨further, rfl⟩ : ∃ further, laxer = further + 1 := ⟨laxer - 1, by omega⟩
      rw [layersFrom, layersFrom]
      by_cases empty : (graph.expand seen frontier).isEmpty
      · simp [empty]
      · simp only [empty, Bool.false_eq_true, if_false, List.prefix_cons_inj]
        exact inductionHypothesis (Nat.le_of_succ_le_succ le) _ _

/-- The layers of a search are the first ones of a search that goes further. -/
theorem layers_reach_isPrefix
    {limit laxer : Nat}
    (positive : 0 < limit)
    (allowed : WithinLimit laxer limit)
    (entry : MethodId) :
    (graph.reach limit entry).layers <+: (graph.reach laxer entry).layers := by
  apply layersFrom_isPrefix
  simp only [beq_iff_eq]
  unfold WithinLimit at allowed
  split <;> split <;> omega

theorem discoveries_reach_isPrefix
    {limit laxer : Nat}
    (positive : 0 < limit)
    (allowed : WithinLimit laxer limit)
    (entry : MethodId) :
    (graph.reach limit entry).discoveries <+: (graph.reach laxer entry).discoveries := by
  obtain ⟨further, equal⟩ := graph.layers_reach_isPrefix positive allowed entry
  rw [Reach.discoveries, Reach.discoveries, ← equal, List.flatten_append]
  exact List.prefix_append _ _

end Prefix

section Complete

variable
  {edges : List CallEdge}
  {maxDepth : Nat}
  {entry : MethodId}

/-- No method is beyond the limit of a search that was not cut off. -/
theorem le_maxDepth_of_not_truncated
    (limited : 0 < maxDepth)
    (complete : ((ofEdges edges).reach maxDepth entry).truncated = false)
    {id : MethodId}
    {distance : Nat}
    (shortest : IsDistance edges entry id distance) : distance ≤ maxDepth := by
  by_contra beyond
  -- On the way to a method beyond the limit there is one just behind it, which is called from one
  -- at the limit: there the search was cut off.
  obtain ⟨next, nextDistance⟩ := shortest.exists_of_le (Nat.lt_of_not_le beyond)
  obtain ⟨caller, atLimit, call⟩ := nextDistance.exists_predecessor
  have cut := (truncated_iff edges maxDepth entry).mpr ⟨limited, caller, atLimit, next, call⟩
  rw [complete] at cut
  cases cut

/-- A search that was not cut off meets what a search without a limit meets, in the same order. -/
theorem discoveries_eq_of_not_truncated
    (limited : 0 < maxDepth)
    (complete : ((ofEdges edges).reach maxDepth entry).truncated = false) :
    ((ofEdges edges).reach maxDepth entry).discoveries =
      ((ofEdges edges).reach 0 entry).discoveries := by
  have first := (ofEdges edges).discoveries_reach_isPrefix limited (Or.inl rfl) entry
  have met :
      ((ofEdges edges).reach 0 entry).discoveries.map Prod.snd ⊆
        ((ofEdges edges).reach maxDepth entry).discoveries.map Prod.snd := by
    intro id found
    rw [mem_discoveries_iff_withinLimit] at found ⊢
    obtain ⟨different, distance, shortest, _⟩ := found
    exact ⟨different, distance, shortest,
      Or.inr (le_maxDepth_of_not_truncated limited complete shortest)⟩
  have few := ((nodup_discoveries edges 0 entry).subperm met).length_le
  rw [List.length_map, List.length_map] at few
  exact first.eq_of_length_le few

end Complete

end CallGraph

/-- A limit cuts a search off at a prefix, and a search that was not cut off is complete.  The
terminals within a limit come first, in the same order, among those of every search that goes
further, and no fewer methods are visited there.  Where the search was not cut off it has the
terminals of the search without a limit, in the same order, and visits as many methods. -/
theorem Search.run_within_limits
    (edges : List CallEdge)
    (suffixes : List String)
    (entry : MethodId)
    (limit laxer : Nat)
    (positive : 0 < limit)
    (allowed : WithinLimit laxer limit) :
    let convention := Convention.ofSuffixes suffixes
    let reach (maxDepth : Nat) : Reach :=
      (({ convention := convention, maxDepth := maxDepth } : Search).run
        (CallGraph.build edges).value entry).value
    (reach limit).terminals convention <+: (reach laxer).terminals convention ∧
      (reach limit).visited ≤ (reach laxer).visited ∧
      ((reach limit).truncated = false →
        (reach limit).terminals convention = (reach 0).terminals convention ∧
          (reach limit).visited = (reach 0).visited) := by
  intro convention reach
  have first : (reach limit).discoveries <+: (reach laxer).discoveries :=
    (CallGraph.ofEdges edges).discoveries_reach_isPrefix positive allowed entry
  refine ⟨(first.map Prod.snd).filter _, Nat.succ_le_succ first.length_le, ?_⟩
  intro complete
  have same : (reach limit).discoveries = (reach 0).discoveries :=
    CallGraph.discoveries_eq_of_not_truncated positive complete
  simp only [Reach.terminals, Reach.visited, same, and_self]

/-- One call deep a search is cut off; two calls deep it meets everything, although a call leads
back to the entry. -/
theorem Search.run_within_limits_of_cycle :
    let edges : List CallEdge :=
      [⟨"Users", "list", "UserMapper", "find"⟩, ⟨"Users", "list", "Service", "all"⟩,
        ⟨"UserMapper", "find", "AuditDao", "note"⟩, ⟨"Service", "all", "Users", "list"⟩]
    let convention := Convention.ofSuffixes ["Mapper", "Dao"]
    let reach (maxDepth : Nat) : Reach :=
      (({ convention := convention, maxDepth := maxDepth } : Search).run
        (CallGraph.build edges).value "Users#list").value
    (reach 1).truncated = true ∧ (reach 1).terminals convention = ["UserMapper#find"] ∧
      (reach 1).terminals convention <+: (reach 2).terminals convention ∧
      (reach 2).truncated = false ∧
      (reach 2).terminals convention = ["UserMapper#find", "AuditDao#note"] ∧
      (reach 2).terminals convention = (reach 0).terminals convention ∧
      (reach 2).visited = (reach 0).visited := by
  intro edges convention reach
  have cut := run_within_limits edges ["Mapper", "Dao"] "Users#list" 1 2 (by decide)
    (Or.inr (by decide))
  have complete : (reach 2).truncated = false := by decide +kernel
  have same := (run_within_limits edges ["Mapper", "Dao"] "Users#list" 2 0 (by decide)
    (Or.inl rfl)).2.2 complete
  exact ⟨by decide +kernel, by decide +kernel, cut.1, complete, by decide +kernel, same.1, same.2⟩

end TableReach
