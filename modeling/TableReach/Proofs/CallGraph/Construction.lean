import TableReach.CallGraph.Basic
import TableReach.Proofs.OrderedTable
import Mathlib.Algebra.BigOperators.Group.Finset.Basic
import Mathlib.Data.Finset.Card

/-!
# Building a call graph

A graph is built by adding one call after the other.  A call that is there already
changes nothing; a new one makes the list of its caller and the count of the calls
longer by one.  Built from a whole list, the graph holds for every caller what it
calls in the order of the first calls, and its counts are those of the different
calls, callers and methods in the list.
-/

namespace TableReach
namespace CallGraph

/-! ## Adding a call -/

section AddCall

variable
  {graph : CallGraph}
  {caller callee : MethodId}

/-- A call that is there already changes nothing. -/
theorem addCall_of_mem
    (present : callee ∈ graph.successors caller) : graph.addCall caller callee = graph := by
  have counted : (graph.addCall caller callee).edgeCount = graph.edgeCount := if_pos present
  cases found : graph.adjacency.lookup caller with
  | none =>
      rw [successors, found] at present
      cases present
  | some callees =>
      rw [successors, found, Option.getD_some] at present
      have kept : (graph.addCall caller callee).adjacency = graph.adjacency :=
        upsert_of_lookup [] (addCallee · callee) found (if_pos present)
      cases graph
      exact CallGraph.mk.injEq .. ▸ ⟨kept, counted⟩

/-- The calls that are counted are those that are listed. -/
def IsCounted (graph : CallGraph) : Prop :=
  graph.edgeCount = (graph.adjacency.flatMap Prod.snd).length

/-- A method that is called for the first time makes the lists longer by one. -/
theorem length_flatMap_upsert
    {table : List (MethodId × List MethodId)}
    (fresh : callee ∉ (table.lookup caller).getD []) :
    ((upsert [] (addCallee · callee) caller table).flatMap Prod.snd).length =
      (table.flatMap Prod.snd).length + 1 := by
  induction table with
  | nil => rfl
  | cons entry others inductionHypothesis =>
      rw [List.lookup_cons] at fresh
      rw [upsert, List.flatMap_cons, List.length_append]
      by_cases same : caller = entry.1
      · have new : callee ∉ entry.2 := by simpa [same] using fresh
        rw [if_pos same.symm, List.flatMap_cons, List.length_append, addCallee, if_neg new,
          List.length_append, List.length_singleton]
        omega
      · rw [beq_eq_false_iff_ne.mpr same] at fresh
        rw [if_neg (Ne.symm same), List.flatMap_cons, List.length_append,
          inductionHypothesis fresh]
        omega

/-- Adding a call counts what it lists. -/
theorem IsCounted.addCall
    (counted : graph.IsCounted) : (graph.addCall caller callee).IsCounted := by
  by_cases present : callee ∈ graph.successors caller
  · rwa [addCall_of_mem present]
  · have longer := length_flatMap_upsert present
    have more : (graph.addCall caller callee).edgeCount = graph.edgeCount + 1 := if_neg present
    exact more.trans ((congrArg (· + 1) counted).trans longer.symm)

end AddCall

/-! ## The graph of a list of calls -/

variable (edges : List CallEdge)

theorem ofEdges_concat (edge : CallEdge) :
    ofEdges (edges ++ [edge]) = (ofEdges edges).addCall edge.fromId edge.toId := by
  rw [ofEdges, List.foldl_append]
  rfl

/-- The graph of a list of calls counts what it lists. -/
theorem isCounted_ofEdges : (ofEdges edges).IsCounted := by
  induction edges using List.reverseRecOn with
  | nil => rfl
  | append_singleton edges edge inductionHypothesis =>
      rw [ofEdges_concat]
      exact inductionHypothesis.addCall

/-- The methods that a method calls in a list of calls, in the order of their first calls. -/
def calleesIn (caller : MethodId) : List MethodId :=
  ((edges.filter fun edge => edge.fromId = caller).map CallEdge.toId).eraseDups

/-- Called methods that are added one after the other are listed once, in order. -/
theorem foldl_addCallee (callees : List MethodId) :
    callees.foldl addCallee [] = callees.eraseDups := by
  induction callees using List.reverseRecOn with
  | nil => rfl
  | append_singleton callees callee inductionHypothesis =>
      rw [List.foldl_append, inductionHypothesis, eraseDups_concat, List.foldl_cons,
        List.foldl_nil, addCallee]
      simp only [List.mem_eraseDups]

/-- The callers come in the order of their first calls, each with what it calls. -/
theorem adjacency_ofEdges :
    (ofEdges edges).adjacency =
      (edges.map CallEdge.fromId).eraseDups.map fun caller => (caller, calleesIn edges caller) := by
  have filled : (ofEdges edges).adjacency =
      tabulate CallEdge.fromId [] (fun callees edge => addCallee callees edge.toId) edges := by
    induction edges using List.reverseRecOn with
    | nil => rfl
    | append_singleton edges edge inductionHypothesis =>
        rw [ofEdges_concat, tabulate_concat, ← inductionHypothesis]
        rfl
  rw [filled, tabulate_eq]
  apply List.map_congr_left
  intro caller _
  rw [calleesIn, ← foldl_addCallee, List.foldl_map]

theorem callers_ofEdges : (ofEdges edges).callers = (edges.map CallEdge.fromId).eraseDups := by
  rw [callers, adjacency_ofEdges, List.map_map]
  exact List.map_id' _

/-- A method that calls nothing has no callees. -/
theorem calleesIn_of_notMem
    {caller : MethodId}
    (absent : caller ∉ edges.map CallEdge.fromId) : calleesIn edges caller = [] := by
  have none : (edges.filter fun edge => edge.fromId = caller) = [] := by
    rw [List.filter_eq_nil_iff]
    intro edge listed equal
    exact absent (of_decide_eq_true equal ▸ List.mem_map_of_mem listed)
  rw [calleesIn, none]
  rfl

/-- The successors of a method are what it calls. -/
theorem successors_ofEdges (caller : MethodId) :
    (ofEdges edges).successors caller = calleesIn edges caller := by
  rw [successors, adjacency_ofEdges]
  by_cases present : caller ∈ (edges.map CallEdge.fromId).eraseDups
  · rw [List.lookup_graph _ present, Option.getD_some]
  · have missed : ((edges.map CallEdge.fromId).eraseDups.map fun caller =>
        (caller, calleesIn edges caller)).lookup caller = none := by
      rw [List.lookup_eq_none_iff]
      intro entry listed
      obtain ⟨other, isCaller, rfl⟩ := List.mem_map.mp listed
      simpa using (ne_of_mem_of_not_mem isCaller present).symm
    rw [missed, calleesIn_of_notMem edges fun listed => present (List.mem_eraseDups.mpr listed)]
    rfl

theorem mem_calleesIn
    {caller callee : MethodId} :
    callee ∈ calleesIn edges caller ↔
      (caller, callee) ∈ edges.map fun edge => (edge.fromId, edge.toId) := by
  simp [calleesIn, and_assoc]

/-- The counter counts the different calls. -/
theorem edgeCount_ofEdges :
    (ofEdges edges).edgeCount =
      (edges.map fun edge => (edge.fromId, edge.toId)).toFinset.card := by
  -- On the last call: it is counted exactly if it is not among the earlier ones.
  induction edges using List.reverseRecOn with
  | nil => rfl
  | append_singleton edges edge inductionHypothesis =>
      rw [ofEdges_concat, addCall, successors_ofEdges, inductionHypothesis, List.map_append,
        List.toFinset_append, Finset.union_comm, List.map_singleton, List.toFinset_cons,
        List.toFinset_nil, insert_empty_eq, ← Finset.insert_eq, Finset.card_insert_eq_ite]
      simp only [mem_calleesIn, List.mem_toFinset]

/-- All callees together are counted once for each of their callers. -/
theorem edgeCount_eq_sum :
    (ofEdges edges).edgeCount =
      ∑ caller ∈ (edges.map CallEdge.fromId).toFinset,
        ((ofEdges edges).successors caller).length := by
  have callers : (edges.map CallEdge.fromId).toFinset =
      (edges.map CallEdge.fromId).eraseDups.toFinset := by
    ext caller
    simp only [List.mem_toFinset, List.mem_eraseDups]
  rw [isCounted_ofEdges, adjacency_ofEdges, callers, List.sum_toFinset _ (nodup_eraseDups _),
    List.length_flatMap, List.map_map]
  simp only [successors_ofEdges]
  rfl

theorem length_eraseDups_eq_card
    (ids : List MethodId) : ids.eraseDups.length = ids.toFinset.card := by
  rw [← List.toFinset_card_of_nodup (nodup_eraseDups ids)]
  congr 1
  ext id
  simp only [List.mem_toFinset, List.mem_eraseDups]

/-- The methods that are called in the graph are those of the list. -/
theorem mem_called_ofEdges
    {id : MethodId} :
    id ∈ (ofEdges edges).adjacency.flatMap Prod.snd ↔ id ∈ edges.map CallEdge.toId := by
  rw [adjacency_ofEdges, List.flatMap_map]
  simp only [List.mem_flatMap, List.mem_eraseDups, mem_calleesIn, List.mem_map, Prod.mk.injEq]
  constructor
  · rintro ⟨_, _, edge, listed, _, rfl⟩
    exact ⟨edge, listed, rfl⟩
  · rintro ⟨edge, listed, rfl⟩
    exact ⟨edge.fromId, ⟨edge, listed, rfl⟩, edge, listed, rfl, rfl⟩

/-- The methods that call or are called are counted once. -/
theorem nodeCount_ofEdges :
    (ofEdges edges).nodeCount =
      (edges.map CallEdge.fromId ++ edges.map CallEdge.toId).toFinset.card := by
  rw [nodeCount, methods, length_eraseDups_eq_card]
  congr 1
  ext id
  rw [List.mem_toFinset, List.mem_toFinset, List.mem_append, List.mem_append, callers_ofEdges,
    List.mem_eraseDups, mem_called_ofEdges]

/-- A call with the identifiers of an earlier one can be left out. -/
theorem ofEdges_of_duplicate
    {before after : List CallEdge}
    {earlier edge : CallEdge}
    (listed : earlier ∈ before)
    (sameCaller : earlier.fromId = edge.fromId)
    (sameCallee : earlier.toId = edge.toId) :
    ofEdges (before ++ edge :: after) = ofEdges (before ++ after) := by
  have present : edge.toId ∈ (ofEdges before).successors edge.fromId := by
    rw [successors_ofEdges, mem_calleesIn, ← sameCaller, ← sameCallee]
    exact List.mem_map_of_mem listed
  have unchanged : ofEdges (before ++ [edge]) = ofEdges before := by
    rw [ofEdges_concat, addCall_of_mem present]
  rw [List.append_cons, ofEdges, List.foldl_append, ← ofEdges, unchanged, ofEdges, ofEdges,
    List.foldl_append]

/-- What a graph says about the list of calls that it was built from. -/
structure Represents
    (graph : CallGraph)
    (edges : List CallEdge) : Prop where
  /-- The successors of a method are what it calls, in the order of the first calls. -/
  successors_eq :
    ∀ caller, graph.successors caller =
      ((edges.filter fun edge => edge.fromId = caller).map CallEdge.toId).eraseDups
  /-- A method that calls nothing has no successors. -/
  successors_eq_nil :
    ∀ id, id ∉ edges.map CallEdge.fromId → graph.successors id = []
  /-- The different calls are counted. -/
  edgeCount_eq_card :
    graph.edgeCount = (edges.map fun edge => (edge.fromId, edge.toId)).toFinset.card
  /-- There are as many as successors of all callers. -/
  edgeCount_eq_sum :
    graph.edgeCount =
      ∑ caller ∈ (edges.map CallEdge.fromId).toFinset, (graph.successors caller).length
  /-- The different callers are counted. -/
  callerCount_eq : graph.callerCount = (edges.map CallEdge.fromId).toFinset.card
  /-- The different methods on either end of a call are counted. -/
  nodeCount_eq :
    graph.nodeCount = (edges.map CallEdge.fromId ++ edges.map CallEdge.toId).toFinset.card

/-- The graph of a list of calls says which different calls there are.  It is the same where a call
is left out whose identifiers are those of an earlier one. -/
theorem build_represents :
    (∀ edges : List CallEdge, (build edges).value.Represents edges) ∧
      ∀ (before after : List CallEdge) (earlier edge : CallEdge), earlier ∈ before →
        earlier.fromId = edge.fromId → earlier.toId = edge.toId →
          (build (before ++ edge :: after)).value = (build (before ++ after)).value := by
  constructor
  · intro edges
    have built : (build edges).value = ofEdges edges := rfl
    rw [built]
    exact
      { successors_eq := successors_ofEdges edges
        successors_eq_nil := fun id absent =>
          (successors_ofEdges edges id).trans (calleesIn_of_notMem edges absent)
        edgeCount_eq_card := edgeCount_ofEdges edges
        edgeCount_eq_sum := edgeCount_eq_sum edges
        callerCount_eq := by
          rw [callerCount, callers_ofEdges, length_eraseDups_eq_card]
        nodeCount_eq := nodeCount_ofEdges edges }
  · intro before after earlier edge listed sameCaller sameCallee
    exact ofEdges_of_duplicate listed sameCaller sameCallee

/-- Two different calls with the same identifiers are one call of the graph. -/
theorem build_of_collidingCalls :
    let first : CallEdge := ⟨"A", "a", "B#b", "c"⟩
    let second : CallEdge := ⟨"A", "a", "B", "b#c"⟩
    first ≠ second ∧ first.fromId = second.fromId ∧ first.toId = second.toId ∧
      (build [first, second]).value.Represents [first, second] ∧
        (build [first, second]).value = (build [first]).value := by
  intro first second
  have sameCaller : first.fromId = second.fromId := by
    decide
  have sameCallee : first.toId = second.toId := by
    decide
  exact ⟨by decide, sameCaller, sameCallee, build_represents.1 [first, second],
    build_represents.2 [first] [] first second (List.mem_singleton_self _) sameCaller sameCallee⟩

end CallGraph
end TableReach
