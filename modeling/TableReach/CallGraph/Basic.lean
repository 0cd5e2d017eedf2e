import TableReach.Event
import TableReach.Facts.Basic
import TableReach.OrderedTable

/-!
# Call graphs

The graph of calls between methods.  For every method that calls others it lists
the methods that are called, both in the order of their first calls.  The graph is
built call by call, and the different calls are counted on the way.
-/

namespace TableReach

/-- A graph of calls. -/
structure CallGraph where
  /-- The methods that call others, each with the methods that it calls. -/
  adjacency : List (MethodId × List MethodId)
  /-- How many different calls there are. -/
  edgeCount : Nat
deriving DecidableEq

namespace CallGraph

/-- The graph without calls. -/
def empty : CallGraph :=
  { adjacency := [], edgeCount := 0 }

/-- The methods that a method calls, in the order of their first call. -/
def successors (graph : CallGraph) (caller : MethodId) : List MethodId :=
  (graph.adjacency.lookup caller).getD []

/-- A called method comes last, unless it was called before. -/
def addCallee (callees : List MethodId) (callee : MethodId) : List MethodId :=
  if callee ∈ callees then callees else callees ++ [callee]

/-- Add a call; only a new one is counted. -/
def addCall (graph : CallGraph) (caller callee : MethodId) : CallGraph :=
  { adjacency := upsert [] (addCallee · callee) caller graph.adjacency
    edgeCount :=
      if callee ∈ graph.successors caller then graph.edgeCount else graph.edgeCount + 1 }

/-- The graph of a list of calls. -/
def ofEdges (edges : List CallEdge) : CallGraph :=
  edges.foldl (fun graph edge => graph.addCall edge.fromId edge.toId) empty

/-- The methods that call others. -/
def callers (graph : CallGraph) : List MethodId :=
  graph.adjacency.map Prod.fst

/-- The methods that call or are called. -/
def methods (graph : CallGraph) : List MethodId :=
  (graph.callers ++ graph.adjacency.flatMap Prod.snd).eraseDups

/-- How many methods call others. -/
def callerCount (graph : CallGraph) : Nat :=
  graph.callers.length

/-- How many methods call or are called. -/
def nodeCount (graph : CallGraph) : Nat :=
  graph.methods.length

/-- There is no call. -/
def isEmpty (graph : CallGraph) : Bool :=
  graph.adjacency.isEmpty

/-- The event of one call. -/
def edgeEvent (edge : CallEdge) : Event :=
  { level := .trace, message := "call edge",
    fields := [("from", edge.fromId), ("to", edge.toId)] }

/-- Build the graph of a list of calls. -/
def build (edges : List CallEdge) : Logged CallGraph := do
  let graph := ofEdges edges
  Logged.leaveAll (edges.map edgeEvent)
  Logged.leave .debug "call graph built"
    [("edges", toString edges.length), ("distinct_edges", toString graph.edgeCount),
      ("callers", toString graph.callerCount)]
  return graph

end CallGraph
end TableReach
