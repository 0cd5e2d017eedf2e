import TableReach.CallGraph.Reach
import TableReach.Proofs.CallGraph.Construction
import Mathlib.Data.Nat.Find

/-!
# Walks along calls

A walk follows calls from an entry, one at a time.  The distance of a method is
the length of a shortest walk to it.  Everything here is said about the list of
calls as it is given, in any order and with repetitions; the graph built from
the list enters by what its successors are.
-/

namespace TableReach

/-- Some call in the list leads from one method to another. -/
def Calls
    (edges : List CallEdge)
    (caller callee : MethodId) : Prop :=
  ∃ edge ∈ edges, edge.fromId = caller ∧ edge.toId = callee

/-- A walk of the given length leads from the entry to a method. -/
inductive Walk
    (edges : List CallEdge)
    (entry : MethodId) : Nat → MethodId → Prop
  /-- The entry is reached without a call. -/
  | start : Walk edges entry 0 entry
  /-- One more call. -/
  | call
      {length : Nat}
      {caller callee : MethodId}
      (before : Walk edges entry length caller)
      (last : Calls edges caller callee) :
      Walk edges entry (length + 1) callee

/-- The shortest walk from the entry to a method has the given length. -/
def IsDistance
    (edges : List CallEdge)
    (entry id : MethodId)
    (distance : Nat) : Prop :=
  Walk edges entry distance id ∧
    ∀ length, Walk edges entry length id → distance ≤ length

/-- A length is allowed by a limit, where zero stands for no limit. -/
def WithinLimit (limit length : Nat) : Prop :=
  limit = 0 ∨ length ≤ limit

namespace Walk

theorem eq_entry
    {edges : List CallEdge}
    {entry id : MethodId}
    (walk : Walk edges entry 0 id) : id = entry := by
  cases walk
  rfl

theorem exists_last
    {edges : List CallEdge}
    {entry id : MethodId}
    {length : Nat}
    (walk : Walk edges entry (length + 1) id) :
    ∃ caller, Walk edges entry length caller ∧ Calls edges caller id := by
  cases walk with
  | call before last => exact ⟨_, before, last⟩

theorem mono
    {edges further : List CallEdge}
    {entry id : MethodId}
    {length : Nat}
    (contained : ∀ caller callee, Calls edges caller callee → Calls further caller callee)
    (walk : Walk edges entry length id) : Walk further entry length id := by
  induction walk with
  | start => exact Walk.start
  | call _ last inductionHypothesis => exact inductionHypothesis.call (contained _ _ last)

/-- Where a walk leads, a shortest walk leads too, and it is no longer. -/
theorem exists_distance
    {edges : List CallEdge}
    {entry id : MethodId}
    {length : Nat}
    (walk : Walk edges entry length id) :
    ∃ distance, distance ≤ length ∧ IsDistance edges entry id distance := by
  classical
  have reached : ∃ count, Walk edges entry count id := ⟨length, walk⟩
  refine ⟨Nat.find reached, Nat.find_min' reached walk, Nat.find_spec reached, ?_⟩
  intro other otherWalk
  exact Nat.find_min' reached otherWalk

end Walk

namespace IsDistance

theorem unique
    {edges : List CallEdge}
    {entry id : MethodId}
    {first second : Nat}
    (firstDistance : IsDistance edges entry id first)
    (secondDistance : IsDistance edges entry id second) :
    first = second :=
  Nat.le_antisymm
    (firstDistance.2 second secondDistance.1)
    (secondDistance.2 first firstDistance.1)

/-- The entry is at distance zero, and nothing else is. -/
theorem zero_iff
    {edges : List CallEdge}
    {entry id : MethodId} :
    IsDistance edges entry id 0 ↔ id = entry := by
  constructor
  · intro atZero
    exact atZero.1.eq_entry
  · intro equal
    subst equal
    exact ⟨Walk.start, fun length _ => Nat.zero_le length⟩

/-- The method before the last on a shortest walk is one call nearer. -/
theorem exists_predecessor
    {edges : List CallEdge}
    {entry id : MethodId}
    {distance : Nat}
    (far : IsDistance edges entry id (distance + 1)) :
    ∃ caller, IsDistance edges entry caller distance ∧ Calls edges caller id := by
  obtain ⟨caller, before, last⟩ := far.1.exists_last
  refine ⟨caller, ⟨before, ?_⟩, last⟩
  intro length walk
  have shorter := far.2 (length + 1) (walk.call last)
  omega

/-- Every distance below that of a method is the distance of some method. -/
theorem exists_of_le
    {edges : List CallEdge}
    {entry id : MethodId}
    {distance smaller : Nat}
    (far : IsDistance edges entry id distance)
    (le : smaller ≤ distance) :
    ∃ nearer, IsDistance edges entry nearer smaller := by
  induction distance generalizing id with
  | zero =>
      have equal : smaller = 0 := Nat.le_zero.mp le
      subst equal
      exact ⟨id, far⟩
  | succ distance inductionHypothesis =>
      rcases Nat.lt_or_eq_of_le le with less | equal
      · obtain ⟨caller, before, _⟩ := far.exists_predecessor
        exact inductionHypothesis before (Nat.le_of_lt_succ less)
      · subst equal
        exact ⟨id, far⟩

end IsDistance

/-- A method is next after distance `distance` if it is called from there and no walk that is
not longer leads to it. -/
theorem isDistance_succ_iff
    {edges : List CallEdge}
    {entry id : MethodId}
    {distance : Nat} :
    IsDistance edges entry id (distance + 1) ↔
      (¬ ∃ length, length ≤ distance ∧ Walk edges entry length id) ∧
        ∃ caller, IsDistance edges entry caller distance ∧ Calls edges caller id := by
  constructor
  · intro far
    refine ⟨?_, far.exists_predecessor⟩
    rintro ⟨length, short, walk⟩
    have := far.2 length walk
    omega
  · rintro ⟨unreached, caller, before, last⟩
    refine ⟨before.1.call last, ?_⟩
    intro length walk
    by_contra short
    exact unreached ⟨length, by omega, walk⟩

namespace CallGraph

theorem mem_successors_ofEdges
    {edges : List CallEdge}
    {caller callee : MethodId} :
    callee ∈ (ofEdges edges).successors caller ↔ Calls edges caller callee := by
  simp only [successors_ofEdges, mem_calleesIn, List.mem_map, Prod.mk.injEq, Calls]

theorem nodup_successors_ofEdges
    (edges : List CallEdge)
    (caller : MethodId) :
    ((ofEdges edges).successors caller).Nodup := by
  rw [successors_ofEdges]
  exact nodup_eraseDups _

section SameCalls

variable
  {edges others : List CallEdge}
  (same : ∀ caller callee, Calls edges caller callee ↔ Calls others caller callee)

include same

/-- Lists of the same calls have graphs with equally many calls. -/
theorem edgeCount_congr : (ofEdges edges).edgeCount = (ofEdges others).edgeCount := by
  rw [edgeCount_ofEdges, edgeCount_ofEdges]
  congr 1
  ext call
  simp only [List.mem_toFinset, List.mem_map, Prod.ext_iff]
  exact same call.1 call.2

/-- Lists of the same calls have graphs with equally many methods. -/
theorem nodeCount_congr : (ofEdges edges).nodeCount = (ofEdges others).nodeCount := by
  have caller (list : List CallEdge) (id : MethodId) :
      id ∈ list.map CallEdge.fromId ↔ ∃ callee, Calls list id callee := by
    simp [Calls]
  have callee (list : List CallEdge) (id : MethodId) :
      id ∈ list.map CallEdge.toId ↔ ∃ caller, Calls list caller id := by
    simp [Calls]
  rw [nodeCount_ofEdges, nodeCount_ofEdges]
  congr 1
  ext id
  simp only [List.mem_toFinset, List.mem_append, caller, callee, same]

end SameCalls

end CallGraph
end TableReach
