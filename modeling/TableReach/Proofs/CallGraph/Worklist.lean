import TableReach.Proofs.CallGraph.Exactness

/-!
# A search with a queue

The same search as a loop.  Methods wait in a queue, each with its depth.  A step takes
the first of them: at the greatest depth it only notes whether the method calls anything,
above it every callee that was not met before is met and waits behind the others.

While the methods of one layer are taken from the front of the queue, the next layer
gathers behind them.  So the loop goes through the layers of `reach` one after the other,
and ends with the methods that `reach` finds, in the same order.
-/

namespace TableReach

/-- The state of a search with a queue. -/
structure Worklist where
  /-- The methods that wait, each with its depth. -/
  queue : List (MethodId × Nat)
  /-- The methods that were met, the entry included. -/
  visited : List MethodId
  /-- The calls that led to a method for the first time. -/
  discoveries : List (MethodId × MethodId)
  /-- The met methods of the data-access layer. -/
  terminals : List MethodId
  /-- The limit cut off further calls. -/
  truncated : Bool

namespace CallGraph

theorem mem_methods_of_mem_successors
    {graph : CallGraph}
    {caller callee : MethodId}
    (called : callee ∈ graph.successors caller) : callee ∈ graph.methods := by
  rw [successors] at called
  cases listed : graph.adjacency.lookup caller with
  | none => simp [listed] at called
  | some callees =>
      rw [listed, Option.getD_some] at called
      obtain ⟨before, after, split, -⟩ := List.lookup_eq_some_iff.mp listed
      simp only [methods, List.mem_eraseDups, List.mem_append, List.mem_flatMap]
      exact Or.inr ⟨(caller, callees), by simp [split], called⟩

end CallGraph

namespace Worklist

/-- Before the first step the entry waits alone. -/
def start (entry : MethodId) : Worklist :=
  { queue := [(entry, 0)], visited := [entry], discoveries := [], terminals := []
    truncated := false }

/-- Meet a method that a waiting one calls.  A new one waits behind the others. -/
def meet
    (convention : Convention)
    (caller : MethodId)
    (depth : Nat)
    (work : Worklist)
    (callee : MethodId) : Worklist :=
  if callee ∈ work.visited then work
  else
    { queue := work.queue ++ [(callee, depth + 1)]
      visited := work.visited ++ [callee]
      discoveries := work.discoveries ++ [(caller, callee)]
      terminals :=
        if convention.isDataAccess callee.className then
          if callee ∈ work.terminals then work.terminals else work.terminals ++ [callee]
        else work.terminals
      truncated := work.truncated }

/-- Look at a method that was taken from the queue. -/
def visit
    (search : Search)
    (graph : CallGraph)
    (current : MethodId)
    (depth : Nat)
    (work : Worklist) : Worklist :=
  if search.maxDepth ≠ 0 ∧ search.maxDepth ≤ depth then
    { work with truncated := work.truncated || !(graph.successors current).isEmpty }
  else (graph.successors current).foldl (meet search.convention current depth) work

/-- How many steps are left at most: one for each method that waits or was not met. -/
def remaining (graph : CallGraph) (work : Worklist) : Nat :=
  work.queue.length + (graph.methods.filter fun id => id ∉ work.visited).length

section Termination

variable
  {graph : CallGraph}
  (convention : Convention)
  (caller : MethodId)
  (depth : Nat)

theorem remaining_meet_le
    (work : Worklist)
    {callee : MethodId}
    (known : callee ∈ graph.methods) :
    (work.meet convention caller depth callee).remaining graph ≤ work.remaining graph := by
  unfold meet
  split
  · exact Nat.le_refl _
  · next fresh =>
      -- The new method waits, and is one less of those that were not met.
      have fewer : (graph.methods.filter fun id => id ∉ work.visited ++ [callee]).length <
          (graph.methods.filter fun id => id ∉ work.visited).length := by
        have narrowed : (graph.methods.filter fun id => id ∉ work.visited ++ [callee]) =
            (graph.methods.filter fun id => id ∉ work.visited).filter fun id => id ≠ callee := by
          rw [List.filter_filter]
          congr 1
          funext id
          simp [and_comm]
        rw [narrowed]
        apply List.length_filter_lt_length_iff_exists.mpr
        exact ⟨callee, by simp [known, fresh], by simp⟩
      simp only [remaining, List.length_append, List.length_singleton]
      omega

theorem remaining_foldl_meet_le
    (work : Worklist)
    {callees : List MethodId}
    (known : ∀ callee ∈ callees, callee ∈ graph.methods) :
    (callees.foldl (meet convention caller depth) work).remaining graph ≤
      work.remaining graph := by
  induction callees generalizing work with
  | nil => exact Nat.le_refl _
  | cons callee others inductionHypothesis =>
      rw [List.forall_mem_cons] at known
      exact (inductionHypothesis _ known.2).trans
        (remaining_meet_le convention caller depth work known.1)

theorem remaining_visit_le
    (search : Search)
    (current : MethodId)
    (work : Worklist) :
    (work.visit search graph current depth).remaining graph ≤ work.remaining graph := by
  unfold visit
  split
  · exact Nat.le_refl _
  · apply remaining_foldl_meet_le
    intro callee called
    exact CallGraph.mem_methods_of_mem_successors called

end Termination

/-- Take methods from the queue until none waits. -/
def run (search : Search) (graph : CallGraph) : Worklist → Worklist
  | ⟨[], visited, discoveries, terminals, truncated⟩ =>
      ⟨[], visited, discoveries, terminals, truncated⟩
  | ⟨(current, depth) :: later, visited, discoveries, terminals, truncated⟩ =>
      run search graph
        (visit search graph current depth ⟨later, visited, discoveries, terminals, truncated⟩)
termination_by work => work.remaining graph
decreasing_by
  apply Nat.lt_of_le_of_lt (remaining_visit_le depth search current _)
  simp [remaining]

/-- The state in which `calls` have led to methods for the first time. -/
def after
    (convention : Convention)
    (entry : MethodId)
    (calls : List (MethodId × MethodId))
    (queue : List (MethodId × Nat))
    (truncated : Bool) : Worklist :=
  { queue := queue
    visited := entry :: calls.map Prod.snd
    discoveries := calls
    terminals := (calls.map Prod.snd).filter fun id => convention.isDataAccess id.className
    truncated := truncated }

section Loop

variable
  {search : Search}
  {graph : CallGraph}
  {entry caller : MethodId}
  {depth : Nat}
  {calls : List (MethodId × MethodId)}
  {queue : List (MethodId × Nat)}
  {truncated : Bool}

theorem run_after_nil :
    run search graph (after search.convention entry calls [] truncated) =
      after search.convention entry calls [] truncated := by
  rw [after, run]

theorem run_after_cons :
    run search graph (after search.convention entry calls ((caller, depth) :: queue) truncated) =
      run search graph (visit search graph caller depth
        (after search.convention entry calls queue truncated)) := by
  rw [after, run, after]

/-- A callee that was met before changes nothing, a new one is the last call of the state. -/
theorem meet_after
    (convention : Convention)
    (callee : MethodId) :
    (after convention entry calls queue truncated).meet convention caller depth callee =
      if callee ∈ entry :: calls.map Prod.snd then
        after convention entry calls queue truncated
      else
        after convention entry (calls ++ [(caller, callee)]) (queue ++ [(callee, depth + 1)])
          truncated := by
  by_cases met : callee ∈ entry :: calls.map Prod.snd
  · rw [meet, if_pos met]
    exact if_pos met
  · have newTerminal : callee ∉ (after convention entry calls queue truncated).terminals := by
      intro terminal
      exact met (List.mem_cons_of_mem _ (List.mem_of_mem_filter terminal))
    rw [meet, if_neg met, if_neg newTerminal, if_neg (show callee ∉ Worklist.visited _ from met)]
    by_cases dataAccess : convention.isDataAccess callee.className = true
    · simp [after, dataAccess]
    · simp [after, dataAccess]

/-- Meeting the callees of a method keeps those that are new, in order. -/
theorem foldl_meet_after
    (convention : Convention)
    {callees : List MethodId}
    (nodup : callees.Nodup) :
    callees.foldl (meet convention caller depth) (after convention entry calls queue truncated) =
      let fresh := callees.filter fun id => !(entry :: calls.map Prod.snd).contains id
      after convention entry (calls ++ fresh.map fun id => (caller, id))
        (queue ++ fresh.map fun id => (id, depth + 1)) truncated := by
  induction callees generalizing calls queue with
  | nil => simp
  | cons callee others inductionHypothesis =>
      obtain ⟨alone, othersNodup⟩ := List.nodup_cons.mp nodup
      rw [List.foldl_cons, meet_after]
      by_cases met : callee ∈ entry :: calls.map Prod.snd
      · rw [if_pos met, inductionHypothesis othersNodup]
        have skipped : (callee :: others).filter
            (fun id => !(entry :: calls.map Prod.snd).contains id) =
              others.filter fun id => !(entry :: calls.map Prod.snd).contains id := by
          apply List.filter_cons_of_neg
          simp only [List.contains_eq_mem, met, decide_true, Bool.not_true, Bool.false_eq_true,
            not_false_eq_true]
        rw [skipped]
      · rw [if_neg met, inductionHypothesis othersNodup]
        -- No later callee is this one, so having met it makes no difference to them.
        have later : (others.filter fun id =>
            !(entry :: (calls ++ [(caller, callee)]).map Prod.snd).contains id) =
              others.filter fun id => !(entry :: calls.map Prod.snd).contains id := by
          apply List.filter_congr
          intro id listed
          have same : id ∈ entry :: (calls ++ [(caller, callee)]).map Prod.snd ↔
              id ∈ entry :: calls.map Prod.snd := by
            simp [ne_of_mem_of_not_mem listed alone]
          simp only [List.contains_eq_mem, same]
        have kept : (callee :: others).filter
            (fun id => !(entry :: calls.map Prod.snd).contains id) =
              callee :: others.filter fun id => !(entry :: calls.map Prod.snd).contains id := by
          apply List.filter_cons_of_pos
          simp only [List.contains_eq_mem, met, decide_false, Bool.not_false]
        simp only [later, kept, List.map_cons, List.append_assoc, List.singleton_append]

/-- A method above the greatest depth adds its new callees. -/
theorem visit_after
    (nodup : ∀ caller, (graph.successors caller).Nodup)
    (above : search.maxDepth = 0 ∨ depth < search.maxDepth) :
    visit search graph caller depth (after search.convention entry calls queue truncated) =
      let fresh := (graph.successors caller).filter fun id =>
        !(entry :: calls.map Prod.snd).contains id
      after search.convention entry (calls ++ fresh.map fun id => (caller, id))
        (queue ++ fresh.map fun id => (id, depth + 1)) truncated := by
  have within : ¬ (search.maxDepth ≠ 0 ∧ search.maxDepth ≤ depth) := by omega
  rw [visit, if_neg within, foldl_meet_after _ (nodup caller)]

/-- While the methods of a layer are taken from the queue, the next layer gathers behind them. -/
theorem run_layer
    (nodup : ∀ caller, (graph.successors caller).Nodup)
    (above : search.maxDepth = 0 ∨ depth < search.maxDepth)
    (frontier waiting : List MethodId) :
    run search graph (after search.convention entry calls
        ((frontier.map fun id => (id, depth)) ++ waiting.map fun id => (id, depth + 1))
        truncated) =
      let layer := graph.expand (entry :: calls.map Prod.snd) frontier
      run search graph (after search.convention entry (calls ++ layer)
        ((waiting ++ layer.map Prod.snd).map fun id => (id, depth + 1)) truncated) := by
  induction frontier generalizing calls waiting with
  | nil => simp [CallGraph.expand]
  | cons caller others inductionHypothesis =>
      rw [List.map_cons, List.cons_append, run_after_cons, visit_after nodup above]
      simp only [CallGraph.expand]
      generalize (graph.successors caller).filter
        (fun id => !(entry :: calls.map Prod.snd).contains id) = fresh
      have seen : entry :: (calls ++ fresh.map fun id => (caller, id)).map Prod.snd =
          entry :: calls.map Prod.snd ++ fresh := by
        simp [Function.comp_def]
      rw [List.append_assoc, ← List.map_append, inductionHypothesis, seen]
      simp [Function.comp_def]

theorem run_frontier
    (nodup : ∀ caller, (graph.successors caller).Nodup)
    (above : search.maxDepth = 0 ∨ depth < search.maxDepth)
    (frontier : List MethodId) :
    run search graph (after search.convention entry calls
        (frontier.map fun id => (id, depth)) truncated) =
      let layer := graph.expand (entry :: calls.map Prod.snd) frontier
      run search graph (after search.convention entry (calls ++ layer)
        ((layer.map Prod.snd).map fun id => (id, depth + 1)) truncated) := by
  simpa only [List.map_nil, List.append_nil, List.nil_append] using
    run_layer nodup above frontier []

/-- At the greatest depth the loop only notes whether anything is called. -/
theorem run_cut
    (below : search.maxDepth ≠ 0 ∧ search.maxDepth ≤ depth)
    (frontier : List MethodId) :
    run search graph (after search.convention entry calls
        (frontier.map fun id => (id, depth)) truncated) =
      after search.convention entry calls []
        (truncated || frontier.any fun id => !(graph.successors id).isEmpty) := by
  induction frontier generalizing truncated with
  | nil => rw [List.map_nil, run_after_nil, List.any_nil, Bool.or_false]
  | cons caller others inductionHypothesis =>
      rw [List.map_cons, run_after_cons, visit, if_pos below, List.any_cons, ← Bool.or_assoc]
      exact inductionHypothesis

/-- The methods that wait behind some layers: the last of them, or the first frontier. -/
def lastOf (frontier : List MethodId) (layers : List (List (MethodId × MethodId))) :
    List MethodId :=
  (layers.getLast?.map fun layer => layer.map Prod.snd).getD frontier

theorem lastOf_cons
    (frontier : List MethodId)
    (layer : List (MethodId × MethodId))
    (layers : List (List (MethodId × MethodId))) :
    lastOf frontier (layer :: layers) = lastOf (layer.map Prod.snd) layers := by
  cases layers with
  | nil => simp [lastOf]
  | cons next others => simp [lastOf, List.getLast?_cons]

/-- The loop goes through the layers behind a frontier one after the other. -/
theorem run_layers
    (nodup : ∀ caller, (graph.successors caller).Nodup)
    (limit : Nat)
    (frontier : List MethodId)
    (within : search.maxDepth = 0 ∨
      depth + (graph.layersFrom limit (entry :: calls.map Prod.snd) frontier).length ≤
        search.maxDepth) :
    run search graph (after search.convention entry calls
        (frontier.map fun id => (id, depth)) truncated) =
      let layers := graph.layersFrom limit (entry :: calls.map Prod.snd) frontier
      run search graph (after search.convention entry (calls ++ layers.flatten)
        ((lastOf frontier layers).map fun id => (id, depth + layers.length)) truncated) := by
  induction limit generalizing calls depth frontier with
  | zero => simp [CallGraph.layersFrom, lastOf]
  | succ limit inductionHypothesis =>
      rw [CallGraph.layersFrom] at within ⊢
      split
      · simp [lastOf]
      · next something =>
          rw [if_neg something, List.length_cons] at within
          have above : search.maxDepth = 0 ∨ depth < search.maxDepth := by omega
          have seen : entry :: (calls ++ graph.expand (entry :: calls.map Prod.snd) frontier).map
              Prod.snd = entry :: calls.map Prod.snd ++
                (graph.expand (entry :: calls.map Prod.snd) frontier).map Prod.snd := by
            simp
          rw [run_frontier nodup above, inductionHypothesis, seen]
          · simp [lastOf_cons, Nat.add_assoc, Nat.add_comm 1]
          · rw [seen]
            omega

end Loop

/-- Behind the last of the layers nothing new is called, unless there are as many as allowed. -/
theorem expand_lastOf
    (graph : CallGraph)
    {limit : Nat}
    {seen frontier : List MethodId}
    (few : (graph.layersFrom limit seen frontier).length < limit) :
    graph.expand (seen ++ (graph.layersFrom limit seen frontier).flatten.map Prod.snd)
      (lastOf frontier (graph.layersFrom limit seen frontier)) = [] := by
  induction limit generalizing seen frontier with
  | zero => simp at few
  | succ limit inductionHypothesis =>
      rw [CallGraph.layersFrom] at few ⊢
      split
      · next nothing => simpa [lastOf] using nothing
      · next something =>
          rw [if_neg something, List.length_cons] at few
          rw [lastOf_cons, List.flatten_cons, List.map_append, ← List.append_assoc]
          exact inductionHypothesis (by omega)

section Reach

variable
  (edges : List CallEdge)
  (maxDepth : Nat)
  (entry : MethodId)

/-- The layers of a search are cut off by its limit alone. -/
theorem exists_limit_of_reach :
    let layers := ((CallGraph.ofEdges edges).reach maxDepth entry).layers
    ∃ limit, layers = (CallGraph.ofEdges edges).layersFrom limit [entry] [entry] ∧
      (maxDepth = 0 ∨ limit ≤ maxDepth) ∧
      (layers.length < limit ∨ maxDepth ≠ 0 ∧ layers.length = maxDepth) := by
  intro layers
  have fewCalls : layers.length ≤ (CallGraph.ofEdges edges).edgeCount :=
    CallGraph.length_layers_le_edgeCount edges maxDepth entry
  have fewLayers : layers.length ≤
      if maxDepth == 0 then (CallGraph.ofEdges edges).layerBound
      else min maxDepth (CallGraph.ofEdges edges).layerBound :=
    CallGraph.length_layersFrom_le _ _ _ _
  refine ⟨_, rfl, ?_⟩
  simp only [beq_iff_eq, CallGraph.layerBound] at fewLayers ⊢
  split
  · omega
  · next limited =>
      rw [if_neg limited] at fewLayers
      omega

/-- A search is cut off if it used up its limit and a method of the last layer calls another. -/
theorem truncated_reach
    (graph : CallGraph) :
    let reach := graph.reach maxDepth entry
    reach.truncated =
      (maxDepth != 0 && reach.layers.length == maxDepth &&
        (lastOf [entry] reach.layers).any fun id => !(graph.successors id).isEmpty) := by
  intro reach
  have equation : reach.truncated = (maxDepth != 0 &&
      (if reach.layers.length == maxDepth then (reach.layers.getLast?.getD []).map Prod.snd
        else []).any fun id => !(graph.successors id).isEmpty) := rfl
  rw [equation, Bool.and_assoc]
  by_cases full : reach.layers.length = maxDepth
  · cases last : reach.layers.getLast? with
    | none =>
        have nothing : reach.layers = [] := List.getLast?_eq_none_iff.mp last
        simp [← full, nothing]
    | some layer => simp [full, lastOf, last]
  · simp [full]

/-- The loop comes to the last layer of a search and stops there, since the layer is cut off or
calls nothing new. -/
theorem run_after_reach
    (search : Search) :
    let reach := (CallGraph.ofEdges edges).reach search.maxDepth entry
    run search (CallGraph.ofEdges edges) (after search.convention entry [] [(entry, 0)] false) =
      after search.convention entry reach.discoveries [] reach.truncated := by
  intro reach
  have nodup := CallGraph.nodup_successors_ofEdges edges
  obtain ⟨limit, isLayers, within, ends⟩ := exists_limit_of_reach edges search.maxDepth entry
  have cut := truncated_reach search.maxDepth entry (CallGraph.ofEdges edges)
  simp only at isLayers ends cut
  rw [show (CallGraph.ofEdges edges).reach search.maxDepth entry = reach from rfl]
    at isLayers ends cut
  have through : run search (CallGraph.ofEdges edges)
      (after search.convention entry [] [(entry, 0)] false) =
        run search (CallGraph.ofEdges edges) (after search.convention entry reach.discoveries
          ((lastOf [entry] reach.layers).map fun id => (id, 0 + reach.layers.length)) false) := by
    rw [Reach.discoveries, isLayers]
    apply run_layers nodup limit [entry]
    have bounded := CallGraph.length_layersFrom_le (CallGraph.ofEdges edges) limit [entry] [entry]
    simp only [List.map_nil]
    omega
  rw [through, Nat.zero_add]
  rcases ends with few | ⟨limited, full⟩
  · have above : search.maxDepth = 0 ∨ reach.layers.length < search.maxDepth := by omega
    have nothing : (CallGraph.ofEdges edges).expand (entry :: reach.discoveries.map Prod.snd)
        (lastOf [entry] reach.layers) = [] := by
      rw [isLayers] at few
      have last := expand_lastOf (CallGraph.ofEdges edges) few
      rwa [← isLayers] at last
    have uncut : reach.truncated = false := by
      rw [cut]
      rcases above with unlimited | less
      · simp [unlimited]
      · simp [less.ne]
    rw [run_frontier nodup above, nothing, uncut]
    simp [run_after_nil]
  · have anyCalls : reach.truncated = (lastOf [entry] reach.layers).any fun id =>
        !((CallGraph.ofEdges edges).successors id).isEmpty := by
      rw [cut]
      simp [limited, full]
    rw [run_cut ⟨limited, full.ge⟩, anyCalls, Bool.false_or]

end Reach

/-- The loop ends, with the methods that a search finds by layers: they are met in the same order,
from the same callers, and the limit cuts off the one search exactly if it does the other. -/
theorem run_start
    (search : Search)
    (edges : List CallEdge)
    (entry : MethodId) :
    let reach := (search.run (CallGraph.build edges).value entry).value
    run search (CallGraph.build edges).value (start entry) =
      { queue := []
        visited := entry :: reach.discoveries.map Prod.snd
        discoveries := reach.discoveries
        terminals := reach.terminals search.convention
        truncated := reach.truncated } :=
  run_after_reach edges entry search

end Worklist
end TableReach
