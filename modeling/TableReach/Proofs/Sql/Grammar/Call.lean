import TableReach.Sql.Grammar.Call
import TableReach.Proofs.Sql.Grammar.DataType

/-!
# Function calls stop at a semicolon
-/

namespace TableReach
namespace Sql
namespace Grammar

set_option synthInstance.maxSize 100000

instance : Stops datePart := by
  unfold datePart
  refine Stops.bind_next (fun lexeme => ?_) fun _ _ _ => rfl
  refine Stops.followedBy fun free => ?_
  split
  · infer_instance
  · split
    · infer_instance
    · split <;> infer_instance

instance : Stops orderDirection := by
  unfold orderDirection
  infer_instance

instance : Stops starOrName := by
  unfold starOrName
  refine Stops.bind_next (fun lexeme => ?_) fun _ _ _ => rfl
  split <;> infer_instance

instance : Stops qualifiedStar := by
  unfold qualifiedStar
  infer_instance

instance : Stops argumentMark := by
  unfold argumentMark
  refine Stops.followedBy fun isValue => ?_
  split
  · infer_instance
  · refine Stops.followedBy fun isArrow => ?_
    split
    · infer_instance
    · refine Stops.followedBy fun dialect => ?_
      split <;> infer_instance

instance : Stops windowName := by
  unfold windowName
  exact Stops.bind_peek (fun lexeme => inferInstance) (Stops.pure _) fun _ _ _ => rfl

instance : Stops nullTreatment := by
  unfold nullTreatment
  infer_instance

section Levels

variable (levels : Levels) [levels.Stop]

instance : Stops (interval levels) := by
  unfold interval
  infer_instance

instance : Stops (orderOptions levels) := by
  unfold orderOptions
  infer_instance

instance : Stops (orderKey levels) := by
  unfold orderKey
  infer_instance

instance : Stops (orderKeys levels) := by
  unfold orderKeys
  infer_instance

instance : Stops (wildcardOrExpression levels) := by
  unfold wildcardOrExpression
  have plain : Stops (do return (← levels.expression, false)) := inferInstance
  refine Stops.bind_peek (fun lexeme => ?_) plain fun _ _ _ => rfl
  have dotted : Goes (do
      if ← comesSymbolAt 1 "." then
        match ← orBack (do skip; qualifiedStar) with
        | some () => return (.literal, true)
        | none => return (← levels.expression, false)
      else return (← levels.expression, false)) := by
    refine Goes.followedLeaving fun comes => ?_
    split
    · refine Goes.followedBy fun star => ?_
      split <;> infer_instance
    · infer_instance
  split
  · infer_instance
  · exact dotted
  · exact dotted
  · infer_instance

instance : Stops (argument levels) := by
  unfold argument
  refine Stops.followedBy fun named => ?_
  split <;> infer_instance

instance : Stops (structuredClauses levels) := by
  unfold structuredClauses
  infer_instance

instance : Stops (overflowFiller levels) := by
  unfold overflowFiller
  refine Stops.bind_peek (fun lexeme => ?_) Stops.unexpected fun _ _ _ => rfl
  split <;> infer_instance

instance : Stops (overflowClause levels) := by
  unfold overflowClause
  infer_instance

instance : Stops (arguments levels) := by
  unfold arguments
  infer_instance

instance : Stops (frameBound levels) := by
  unfold frameBound
  infer_instance

instance : Stops (windowSpecification levels) := by
  unfold windowSpecification
  infer_instance

instance : Stops (window levels) := by
  unfold window
  infer_instance

instance : Stops (call levels) := by
  unfold call
  infer_instance

end Levels

end Grammar
end Sql
end TableReach
