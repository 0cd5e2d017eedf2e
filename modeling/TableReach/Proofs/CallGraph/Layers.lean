import TableReach.Proofs.CallGraph.Walks
import Mathlib.Data.List.Perm.Subperm

/-!
# Layers of a search

A search goes layer by layer.  The invariant `Frontier` says what the search knows
at some depth: which methods are at most that far from the entry, and which are
exactly that far.  One step keeps it, so layer number `index` holds the methods at
distance `index + 1`, each once, and a search that runs out of layers before its
limit has met every method that can be reached.
-/

namespace TableReach

/-- What a search knows at some depth. -/
structure Frontier
    (edges : List CallEdge)
    (entry : MethodId)
    (depth : Nat)
    (seen frontier : List MethodId) : Prop where
  /-- The methods that were seen are those at most `depth` calls away. -/
  mem_seen (id : MethodId) :
    id ∈ seen ↔ ∃ length, length ≤ depth ∧ Walk edges entry length id
  /-- The frontier holds the methods that are exactly `depth` calls away. -/
  mem_frontier (id : MethodId) :
    id ∈ frontier ↔ IsDistance edges entry id depth

namespace CallGraph

section Expand

variable {graph : CallGraph}

theorem map_snd_expand_cons
    (seen : List MethodId)
    (caller : MethodId)
    (others : List MethodId) :
    (graph.expand seen (caller :: others)).map Prod.snd =
      (graph.successors caller).filter (fun id => !seen.contains id) ++
        (graph.expand
          (seen ++ (graph.successors caller).filter fun id => !seen.contains id)
          others).map Prod.snd := by
  simp [expand, Function.comp_def]

/-- What is found are the successors of the callers that were not seen before. -/
theorem mem_map_snd_expand
    {seen frontier : List MethodId}
    {id : MethodId} :
    id ∈ (graph.expand seen frontier).map Prod.snd ↔
      id ∉ seen ∧ ∃ caller ∈ frontier, id ∈ graph.successors caller := by
  induction frontier generalizing seen with
  | nil => simp [expand]
  | cons caller others inductionHypothesis =>
      rw [map_snd_expand_cons, List.mem_append, inductionHypothesis]
      simp only [List.mem_filter, List.mem_append, List.contains_eq_mem,
        Bool.not_eq_eq_eq_not, Bool.not_true, decide_eq_false_iff_not, List.exists_mem_cons_iff]
      tauto

/-- Nothing is found twice. -/
theorem nodup_map_snd_expand
    (nodup : ∀ caller, (graph.successors caller).Nodup)
    (seen frontier : List MethodId) :
    ((graph.expand seen frontier).map Prod.snd).Nodup := by
  induction frontier generalizing seen with
  | nil => simp [expand]
  | cons caller others inductionHypothesis =>
      rw [map_snd_expand_cons, List.nodup_append']
      refine ⟨(nodup caller).filter _, inductionHypothesis _, ?_⟩
      intro id fresh later
      rw [mem_map_snd_expand] at later
      exact later.1 (List.mem_append_right seen fresh)

end Expand

end CallGraph

namespace Frontier

variable
  {edges : List CallEdge}
  {entry : MethodId}

/-- A search starts at its entry. -/
theorem initial : Frontier edges entry 0 [entry] [entry] where
  mem_seen id := by
    constructor
    · intro present
      rw [List.mem_singleton] at present
      subst present
      exact ⟨0, Nat.le_refl 0, Walk.start⟩
    · rintro ⟨length, short, walk⟩
      obtain rfl : length = 0 := Nat.le_zero.mp short
      exact List.mem_singleton.mpr walk.eq_entry
  mem_frontier id := by
    rw [List.mem_singleton, IsDistance.zero_iff]

theorem mem_found
    {depth : Nat}
    {seen frontier : List MethodId}
    (known : Frontier edges entry depth seen frontier)
    (id : MethodId) :
    id ∈ ((CallGraph.ofEdges edges).expand seen frontier).map Prod.snd ↔
      IsDistance edges entry id (depth + 1) := by
  rw [CallGraph.mem_map_snd_expand, isDistance_succ_iff, known.mem_seen]
  simp only [known.mem_frontier, CallGraph.mem_successors_ofEdges]

/-- One step takes what is known one call further. -/
theorem step
    {depth : Nat}
    {seen frontier found : List MethodId}
    (known : Frontier edges entry depth seen frontier)
    (equal : ((CallGraph.ofEdges edges).expand seen frontier).map Prod.snd = found) :
    Frontier edges entry (depth + 1) (seen ++ found) found where
  mem_seen id := by
    rw [List.mem_append, known.mem_seen, ← equal, known.mem_found]
    constructor
    · rintro (⟨length, short, walk⟩ | next)
      · exact ⟨length, Nat.le_succ_of_le short, walk⟩
      · exact ⟨depth + 1, Nat.le_refl _, next.1⟩
    · rintro ⟨length, short, walk⟩
      obtain ⟨distance, le, shortest⟩ := walk.exists_distance
      rcases Nat.lt_or_ge depth distance with far | near
      · obtain rfl : distance = depth + 1 := by omega
        exact Or.inr shortest
      · exact Or.inl ⟨distance, near, shortest.1⟩
  mem_frontier id := by
    rw [← equal, known.mem_found]

/-- Layer number `index` holds the methods that are `index + 1` calls further away. -/
theorem mem_layer
    {limit depth index : Nat}
    {seen frontier : List MethodId}
    {layer : List (MethodId × MethodId)}
    (known : Frontier edges entry depth seen frontier)
    (present :
      ((CallGraph.ofEdges edges).layersFrom limit seen frontier)[index]? = some layer)
    (id : MethodId) :
    id ∈ layer.map Prod.snd ↔ IsDistance edges entry id (depth + index + 1) := by
  induction limit generalizing depth index seen frontier with
  | zero => simp [CallGraph.layersFrom] at present
  | succ limit inductionHypothesis =>
      rw [CallGraph.layersFrom] at present
      split at present
      · simp at present
      · cases index with
        | zero =>
            rw [List.getElem?_cons_zero, Option.some_inj] at present
            subst present
            exact known.mem_found id
        | succ index =>
            rw [List.getElem?_cons_succ] at present
            rw [inductionHypothesis (known.step rfl) present]
            congr! 1
            omega

/-- Where there are fewer layers than allowed, no method is one call further away than the last
layer. -/
theorem not_isDistance_of_length_lt
    {limit depth : Nat}
    {seen frontier : List MethodId}
    (known : Frontier edges entry depth seen frontier)
    (few : ((CallGraph.ofEdges edges).layersFrom limit seen frontier).length < limit)
    (id : MethodId) :
    ¬ IsDistance edges entry id
      (depth + ((CallGraph.ofEdges edges).layersFrom limit seen frontier).length + 1) := by
  induction limit generalizing depth seen frontier with
  | zero => simp at few
  | succ limit inductionHypothesis =>
      rw [CallGraph.layersFrom] at few ⊢
      split at few
      · next empty =>
          rw [if_pos empty, List.length_nil]
          intro next
          rw [List.isEmpty_iff] at empty
          have found := (known.mem_found id).mpr next
          rw [empty] at found
          simp at found
      · next nonempty =>
          rw [if_neg nonempty, List.length_cons]
          have later := inductionHypothesis (known.step rfl) (by simpa using few)
          convert later using 2
          omega

/-- No method is found twice. -/
theorem nodup_layers
    {limit depth : Nat}
    {seen frontier : List MethodId}
    (known : Frontier edges entry depth seen frontier) :
    (((CallGraph.ofEdges edges).layersFrom limit seen frontier).flatten.map Prod.snd).Nodup := by
  induction limit generalizing depth seen frontier with
  | zero => simp [CallGraph.layersFrom]
  | succ limit inductionHypothesis =>
      rw [CallGraph.layersFrom]
      split
      · simp
      · rw [List.flatten_cons, List.map_append, List.nodup_append']
        refine ⟨CallGraph.nodup_map_snd_expand (CallGraph.nodup_successors_ofEdges edges) _ _,
          inductionHypothesis (known.step rfl), ?_⟩
        intro id first later
        rw [known.mem_found] at first
        simp only [List.mem_map, List.mem_flatten] at later
        obtain ⟨call, ⟨layer, layerPresent, callPresent⟩, rfl⟩ := later
        obtain ⟨index, position⟩ := List.mem_iff_getElem?.mp layerPresent
        have further := ((known.step rfl).mem_layer position call.2).mp
          (List.mem_map_of_mem callPresent)
        have equal := first.unique further
        omega

end Frontier

namespace CallGraph

/-- There are no more layers than allowed. -/
theorem length_layersFrom_le
    (graph : CallGraph)
    (limit : Nat)
    (seen frontier : List MethodId) :
    (graph.layersFrom limit seen frontier).length ≤ limit := by
  induction limit generalizing seen frontier with
  | zero => simp [layersFrom]
  | succ limit inductionHypothesis =>
      rw [layersFrom]
      split
      · simp
      · rw [List.length_cons]
        exact Nat.succ_le_succ (inductionHypothesis _ _)

/-- No layer is empty, so there are no more layers than methods in them. -/
theorem length_layersFrom_le_length_flatten
    (graph : CallGraph)
    (limit : Nat)
    (seen frontier : List MethodId) :
    (graph.layersFrom limit seen frontier).length ≤
      (graph.layersFrom limit seen frontier).flatten.length := by
  induction limit generalizing seen frontier with
  | zero => simp [layersFrom]
  | succ limit inductionHypothesis =>
      rw [layersFrom]
      split
      · simp
      · next nonempty =>
          have positive : 0 < (graph.expand seen frontier).length := by
            rw [List.length_pos_iff, ne_eq, ← List.isEmpty_iff]
            exact nonempty
          have others := inductionHypothesis
            (seen ++ (graph.expand seen frontier).map Prod.snd)
            ((graph.expand seen frontier).map Prod.snd)
          rw [List.length_cons, List.flatten_cons, List.length_append]
          omega

end CallGraph
end TableReach
