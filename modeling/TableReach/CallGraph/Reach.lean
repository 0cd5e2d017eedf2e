import TableReach.CallGraph.Basic
import TableReach.CallGraph.Convention

/-!
# Reachable methods

From the method that an endpoint enters, calls are followed layer by layer.  The
first layer holds what the entry calls, the next what those methods call that was
not met before, and so on, to a depth that may be limited.  What is reached in the
data-access layer are the terminals of the endpoint.
-/

namespace TableReach

/-- How far calls are followed. -/
structure Search where
  /-- Which classes make up the data-access layer. -/
  convention : Convention
  /-- How many calls deep the search goes; zero for no limit. -/
  maxDepth : Nat

/-- What a search met: each method with the method it was first called from. -/
structure Reach where
  /-- The calls that led to a method for the first time, layer by layer. -/
  layers : List (List (MethodId × MethodId))
  /-- The limit cut off further calls. -/
  truncated : Bool

namespace Reach

/-- The calls that led to a method for the first time, in order. -/
def discoveries (reach : Reach) : List (MethodId × MethodId) :=
  reach.layers.flatten

/-- How many methods were met, the entry included. -/
def visited (reach : Reach) : Nat :=
  reach.discoveries.length + 1

/-- The met methods of the data-access layer, in the order in which they were met. -/
def terminals (reach : Reach) (convention : Convention) : List MethodId :=
  (reach.discoveries.map Prod.snd).filter fun id => convention.isDataAccess id.className

end Reach

namespace CallGraph

/-- The first calls out of the methods of one layer to methods not in `seen`. -/
def expand
    (graph : CallGraph) :
    List MethodId → List MethodId → List (MethodId × MethodId)
  | _, [] => []
  | seen, caller :: others =>
      let fresh := (graph.successors caller).filter fun id => !seen.contains id
      fresh.map (fun id => (caller, id)) ++ graph.expand (seen ++ fresh) others

/-- The layers behind the layer `frontier`, at most `limit` of them; the last one may not be
empty. -/
def layersFrom
    (graph : CallGraph) :
    Nat → List MethodId → List MethodId → List (List (MethodId × MethodId))
  | 0, _, _ => []
  | limit + 1, seen, frontier =>
      let layer := graph.expand seen frontier
      if layer.isEmpty then []
      else
        let found := layer.map Prod.snd
        layer :: graph.layersFrom limit (seen ++ found) found

/-- The layers that can be there: each but the first holds a method that is called. -/
def layerBound (graph : CallGraph) : Nat :=
  graph.edgeCount + 1

/-- Follow the calls from an entry; zero stands for no limit. -/
def reach (graph : CallGraph) (maxDepth : Nat) (entry : MethodId) : Reach :=
  let limit := if maxDepth == 0 then graph.layerBound else min maxDepth graph.layerBound
  let layers := graph.layersFrom limit [entry] [entry]
  let last := if layers.length == maxDepth then (layers.getLast?.getD []).map Prod.snd else []
  { layers := layers
    truncated := maxDepth != 0 && last.any fun id => !(graph.successors id).isEmpty }

end CallGraph

namespace Search

/-- The event of the first call to a method. -/
def discoveryEvent (convention : Convention) (call : MethodId × MethodId) : Event :=
  { level := .trace
    message :=
      if convention.isDataAccess call.2.className then "data-access layer reached"
      else "intermediate layer"
    fields := [("from", call.1), ("to", call.2)] }

/-- Follow the calls from an entry. -/
def run (search : Search) (graph : CallGraph) (entry : MethodId) : Logged Reach := do
  Logged.leave .debug "reachability search started" [("entry", entry)]
  let reach := graph.reach search.maxDepth entry
  Logged.leaveAll (reach.discoveries.map (discoveryEvent search.convention))
  Logged.leave .debug "reachability search finished"
    [("entry", entry), ("visited", toString reach.visited),
      ("terminals", toString (reach.terminals search.convention).length),
      ("truncated", toString reach.truncated)]
  return reach

end Search
end TableReach
