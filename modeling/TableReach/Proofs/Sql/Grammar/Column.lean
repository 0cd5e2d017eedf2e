import TableReach.Sql.Grammar.Column
import TableReach.Proofs.Sql.Grammar.Change

/-!
# Definitions of columns stop at a semicolon
-/

namespace TableReach
namespace Sql
namespace Grammar

set_option synthInstance.maxSize 100000

instance : Stops commentText := by
  unfold commentText
  refine Stops.bind_next (fun lexeme => ?_) fun _ _ _ => rfl
  split <;> infer_instance

instance : Stops clusteringSetting := by
  unfold clusteringSetting
  infer_instance

instance : Stops (sequenceBound word) := by
  unfold sequenceBound
  infer_instance

instance : Stops sequenceOptions := by
  unfold sequenceOptions
  infer_instance

instance (limit : Nat) (given : Characteristics) : Stops (characteristicsFrom limit given) := by
  induction limit generalizing given with
  | zero => exact Stops.pure _
  | succ limit inductionHypothesis =>
      unfold characteristicsFrom
      infer_instance

instance : Stops characteristics := by
  unfold characteristics
  infer_instance

instance : Stops enforcement := by
  unfold enforcement
  infer_instance

instance : Stops referentialAction := by
  unfold referentialAction
  refine Stops.followedBy fun found => ?_
  split <;> infer_instance

instance (limit : Nat) (given : ReferenceClauses) : Stops (referenceClauses limit given) := by
  induction limit generalizing given with
  | zero => exact Stops.pure _
  | succ limit inductionHypothesis =>
      unfold referenceClauses
      infer_instance

instance : Stops reference := by
  unfold reference
  infer_instance

instance : Stops computedMode := by
  unfold computedMode
  infer_instance

instance : Stops (wordRule words dialects) := by
  unfold wordRule
  infer_instance

instance : Takes id (wordRule (word :: words) dialects) := by
  unfold wordRule
  infer_instance

instance : Stops identityBounds := by
  unfold identityBounds
  infer_instance

instance : Stops isUntyped := by
  unfold isUntyped
  refine Stops.followedBy fun bare => ?_
  split
  · refine Stops.bind_peek (fun lexeme => inferInstance) (Stops.pure _) fun _ _ _ => rfl
  · infer_instance

section Levels

variable (levels : Levels) [levels.Stop]

instance : Stops (bracketedExpressions levels) := by
  unfold bracketedExpressions
  infer_instance

instance : Stops (rangeSetting levels) := by
  unfold rangeSetting
  infer_instance

instance : Stops (setting levels) := by
  unfold setting
  refine Stops.followedBy fun isGeneric => ?_
  dsimp only
  have named : Stops (do
      let _ ← ident
      expectSymbol "="
      let _ ← levels.expression) :=
    inferInstance
  split
  · exact Stops.bind_nextKeyword (fun keyword => by split <;> infer_instance) named
  · exact named

instance : Stops (ruleValue levels) := by
  unfold ruleValue
  infer_instance

instance : Stops (bracketedCondition levels) := by
  unfold bracketedCondition
  infer_instance

instance : Stops (generatedRule levels) := by
  unfold generatedRule
  infer_instance

instance : Stops (keywordRuleParts levels keyword) := by
  unfold keywordRuleParts
  split <;> infer_instance

instance : Stops (keywordRule levels) := by
  unfold keywordRule
  refine Stops.followedBy fun found => ?_
  split <;> infer_instance

instance : Takes id (keywordRule levels) := by
  unfold keywordRule
  exact Takes.bind_option (fun _ => inferInstance) Takes.pure_false

instance : Stops (standardRule levels) := by
  unfold standardRule
  infer_instance

instance : Takes id (standardRule levels) := by
  unfold standardRule
  infer_instance

instance : Stops (computedRule levels) := by
  unfold computedRule
  refine Stops.followedBy fun found => ?_
  split <;> infer_instance

instance : Takes id (computedRule levels) := by
  unfold computedRule
  exact Takes.bind_option (fun _ => inferInstance) Takes.pure_false

instance : Stops (derivedRule levels) := by
  unfold derivedRule
  infer_instance

instance : Takes id (derivedRule levels) := by
  unfold derivedRule
  infer_instance

instance : Stops (dialectRule levels) := by
  unfold dialectRule
  infer_instance

instance : Takes id (dialectRule levels) := by
  unfold dialectRule
  infer_instance

instance : Stops (columnRule levels) := by
  unfold columnRule
  infer_instance

instance : Takes id (columnRule levels) := by
  unfold columnRule
  infer_instance

instance : Stops (newColumn levels) := by
  unfold newColumn
  infer_instance

end Levels

end Grammar
end Sql
end TableReach
