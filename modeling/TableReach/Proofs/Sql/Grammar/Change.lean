import TableReach.Sql.Grammar.Change
import TableReach.Proofs.Sql.Grammar.Query

/-!
# Changes of rows stop at a semicolon
-/

namespace TableReach
namespace Sql
namespace Grammar

set_option synthInstance.maxSize 100000

instance : Stops conflictWords := by
  unfold conflictWords
  infer_instance

instance : Stops fileFormat := by
  unfold fileFormat
  infer_instance

section Levels

variable (levels : Levels) [levels.Stop]

instance : Stops (returning levels) := by
  unfold returning
  infer_instance

instance : Stops (conflict levels) := by
  unfold conflict
  infer_instance

instance : Stops (insertedRows levels) := by
  unfold insertedRows
  infer_instance

instance : Stops (insertionInto levels) := by
  unfold insertionInto
  infer_instance

instance : Stops (insertion levels) := by
  unfold insertion
  infer_instance

instance : Stops (updating levels) := by
  unfold updating
  infer_instance

instance : Stops (deletion levels) := by
  unfold deletion
  infer_instance

instance (absent bySource byTarget : Bool) :
    Stops (mergeAction levels absent bySource byTarget) := by
  unfold mergeAction
  refine Stops.followedBy fun found => ?_
  split <;> infer_instance

instance : Stops (mergeCase levels) := by
  unfold mergeCase
  infer_instance

instance : Takes Option.isSome (mergeCase levels) := by
  unfold mergeCase
  infer_instance

instance : Stops (mergeOutput levels) := by
  unfold mergeOutput
  refine Stops.followedBy fun found => ?_
  split <;> infer_instance

instance : Stops (merging levels) := by
  unfold merging
  infer_instance

instance : Stops (query levels) := by
  unfold query
  refine Stops.followedBy fun named => Stops.followedBy fun found => ?_
  split <;> infer_instance

end Levels

end Grammar
end Sql
end TableReach
