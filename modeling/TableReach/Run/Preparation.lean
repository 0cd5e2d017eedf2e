import TableReach.Classification.Classifier
import TableReach.Facts.Basic
import TableReach.Report.Basic

/-!
# Preparation of statements

A statement whose operation or tables are not given is classified by its text;
what is given stands.  Without a text such a statement is dropped.
-/

namespace TableReach

namespace Mapping

/-- The operation or the tables have to be found out. -/
def needsClassification (mapping : Mapping) : Bool :=
  mapping.operation == .unknown || mapping.tables.isEmpty

/-- The tables that have a name, each once. -/
def namedTables (mapping : Mapping) : Mapping :=
  { mapping with tables := (mapping.tables.filter fun table => !table.isEmpty).eraseDups }

/-- Take from a classification what is not given. -/
def complete (mapping : Mapping) (found : Classification) : Mapping :=
  { mapping with
    operation := if mapping.operation == .unknown then found.operation else mapping.operation
    tables := if mapping.tables.isEmpty then found.tables else mapping.tables }

/-- Prepare a statement. -/
def prepare
    (evict : Eviction)
    (classifier : Classifier)
    (mapping : Mapping) : Logged (Except Failure Mapping × Classifier) := do
  if mapping.needsClassification then
    let (outcome, after) ← classifier.classify evict mapping.rawText
    return (outcome.map fun found => (mapping.complete found).namedTables, after)
  else return (.ok mapping.namedTables, classifier)

/-- Prepare statements one after the other. -/
def prepareAll
    (evict : Eviction) :
    Classifier → List Mapping → Logged (List (Except Failure Mapping) × Classifier)
  | classifier, [] => return ([], classifier)
  | classifier, mapping :: others => do
      let (first, after) ← mapping.prepare evict classifier
      let (rest, last) ← prepareAll evict after others
      return (first :: rest, last)

end Mapping

/-- What the preparation of statements gave. -/
structure Preparation where
  /-- The prepared statements with a known operation. -/
  known : List Mapping
  /-- The prepared statements without one. -/
  unknown : List Mapping
  /-- The statements that could not be prepared. -/
  dropped : List DroppedMapping

namespace Preparation

/-- The statement was dropped, and why. -/
def drop? (source : Mapping) (outcome : Except Failure Mapping) : Option DroppedMapping :=
  match outcome with
  | .ok _ => none
  | .error failure => some { mapping := source.qualifiedId, reason := failure.label }

/-- Sort prepared statements. -/
def ofOutcomes
    (sources : List Mapping)
    (outcomes : List (Except Failure Mapping)) : Preparation :=
  let prepared := outcomes.filterMap Except.toOption
  { known := prepared.filter fun mapping => mapping.operation != .unknown
    unknown := prepared.filter fun mapping => mapping.operation == .unknown
    dropped := (List.zipWith drop? sources outcomes).filterMap id }

/-- The event of a dropped statement. -/
def dropEvent (dropped : DroppedMapping) : Event :=
  { level := .warn, message := "mapping dropped",
    fields := [("mapping", dropped.mapping), ("error", dropped.reason)] }

/-- The event of a statement without a known operation. -/
def unknownEvent (mapping : Mapping) : Event :=
  { level := .debug, message := "mapping has no known operation, skipped",
    fields := [("mapping", mapping.qualifiedId)] }

/-- Prepare statements and sort them. -/
def run
    (evict : Eviction)
    (classifier : Classifier)
    (mappings : List Mapping) : Logged (Preparation × Classifier) := do
  let (outcomes, after) ← Mapping.prepareAll evict classifier mappings
  let preparation := ofOutcomes mappings outcomes
  Logged.leaveAll (preparation.dropped.map dropEvent)
  Logged.leaveAll (preparation.unknown.map unknownEvent)
  return (preparation, after)

end Preparation
end TableReach
