import TableReach.Sql.Grammar.Source
import TableReach.Proofs.Sql.Grammar.Expression

/-!
# Sources of rows stop at a semicolon
-/

namespace TableReach
namespace Sql
namespace Grammar

set_option synthInstance.maxSize 100000

section RowPattern

instance : Stops repetitionCount := by
  unfold repetitionCount
  infer_instance

instance : Stops repetitionBounds := by
  unfold repetitionBounds
  infer_instance

instance : Stops repetition := by
  unfold repetition
  refine Stops.bind_peek (fun lexeme => ?_) (Stops.pure none) fun _ _ _ => rfl
  split <;> infer_instance

instance : Takes Option.isSome repetition := by
  unfold repetition
  refine Takes.bind_peek (fun lexeme => ?_) Takes.pure_none
  split <;> infer_instance

section Inner

variable (inner : Reader Unit) [Stops inner]

instance : Stops (patternBase inner) := by
  unfold patternBase
  refine Stops.bind_peek (fun lexeme => ?_) ?_ fun _ _ _ => rfl
  · split <;> infer_instance
  · exact inferInstanceAs (Stops (do let _ ← ident))

instance : Takes always (patternBase inner) := by
  unfold patternBase
  refine Takes.bind_peek (fun lexeme => ?_) ?_
  · split <;> infer_instance
  · exact inferInstanceAs (Takes always (do let _ ← ident))

instance : Stops (repeatedPattern inner) := by
  unfold repeatedPattern
  infer_instance

instance : Takes always (repeatedPattern inner) := by
  unfold repeatedPattern
  infer_instance

instance : Stops (patternSequence inner) := by
  unfold patternSequence
  infer_instance

section Other

variable (other : Reader Unit) [Agrees bound inner other]

instance : Agrees (bound + 1) (patternBase inner) (patternBase other) := by
  unfold patternBase
  refine Agrees.followedBy fun lexeme => ?_
  split <;> infer_instance

instance : Agrees (bound + 1) (repeatedPattern inner) (repeatedPattern other) := by
  unfold repeatedPattern
  infer_instance

instance : Agrees (bound + 1) (patternSequence inner) (patternSequence other) := by
  unfold patternSequence
  infer_instance

end Other

end Inner

instance (depth : Nat) : Stops (nestedRowPattern depth) := by
  induction depth with
  | zero => exact Stops.unexpected
  | succ depth inductionHypothesis =>
      unfold nestedRowPattern
      infer_instance

/-- A pattern of a group takes a bracket before the patterns inside. -/
theorem agrees_nestedRowPattern
    {bound depth other : Nat}
    (below : bound < depth)
    (belowOther : bound < other) :
    Agrees bound (nestedRowPattern depth) (nestedRowPattern other) := by
  refine Agrees.of_step (fun depth _ => nestedRowPattern depth) 1 (fun depth other _ => ?_)
    (fun bound depth other agree _ => ?_) below belowOther ()
  · exact Agrees.of_nil (.error .unexpected) (fun _ => rfl) fun _ => rfl
  · have agreeInside := agree ()
    unfold nestedRowPattern
    infer_instance

instance : Stops rowPattern := by
  unfold rowPattern
  exact Stops.bind_remaining (fun _ => inferInstance) fun _ _ _ le leOther =>
    agrees_nestedRowPattern (Nat.lt_succ_of_le le) (Nat.lt_succ_of_le leOther)

end RowPattern

instance : Stops indexHint := by
  unfold indexHint
  infer_instance

instance : Takes Option.isSome indexHint := by
  unfold indexHint
  infer_instance

instance : Stops matchedRows := by
  unfold matchedRows
  infer_instance

instance : Stops afterMatch := by
  unfold afterMatch
  infer_instance

instance : Stops columnFallback := by
  unfold columnFallback
  refine Stops.followedBy fun found => ?_
  split <;> infer_instance

instance : Takes Option.isSome columnFallback := by
  unfold columnFallback
  exact Takes.bind_option (fun _ => inferInstance) Takes.pure_none

instance : Sees (comesCallOf word) where
  leaves read := by
    cases read
    rfl
  suffix read := by
    cases read
    exact List.suffix_refl _
  goes context lexemes spaced after nonempty _ := by
    rcases lexemes with _ | ⟨first, _ | ⟨second, rest⟩⟩
    · exact absurd rfl nonempty
    · rfl
    · rfl
  halts _ _ _ := rfl
  nonempty {context lexemes rest} seen := by
    rintro rfl
    exact nomatch seen

instance : Stops sideJoinWords := by
  unfold sideJoinWords
  infer_instance

instance : Stops (joinWords natural) := by
  unfold joinWords
  refine Stops.bind_nextKeyword (fun keyword => ?_) ?_
  · split <;> infer_instance
  · exact inferInstanceAs (Stops (do require !natural; return false))

instance : Takes id (joinWords natural) := by
  unfold joinWords
  refine Takes.bind_nextKeyword (fun keyword => ?_) ?_
  · split <;> infer_instance
  · exact inferInstanceAs (Takes id (do require !natural; return false))

section Levels

variable (levels : Levels) [levels.Stop]

instance : Stops (labelColumns levels) := by
  unfold labelColumns
  infer_instance

instance : Stops (tableLabel levels) := by
  unfold tableLabel
  infer_instance

instance : Stops (valueRows levels allowed) := by
  unfold valueRows
  infer_instance

instance : Stops (sampleCount levels) := by
  unfold sampleCount
  refine Stops.followedBy fun found => ?_
  split
  · infer_instance
  · exact Stops.bind_next (fun lexeme => inferInstance) fun _ _ _ => rfl

instance : Stops (sampleSize levels isBracketed) := by
  unfold sampleSize
  infer_instance

instance : Stops (sampleClauses levels) := by
  unfold sampleClauses
  infer_instance

instance : Stops (sample levels) := by
  unfold sample
  infer_instance

instance : Stops (settings? levels) := by
  unfold settings?
  infer_instance

instance (limit : Nat) : Stops (tableArgumentsFrom levels limit) := by
  induction limit with
  | zero => exact Stops.unexpected
  | succ limit inductionHypothesis =>
      unfold tableArgumentsFrom
      refine Stops.followedBy fun found => ?_
      split <;> infer_instance

/-- Each further argument takes a comma. -/
theorem agrees_tableArgumentsFrom
    {bound limit other : Nat}
    (below : bound < limit)
    (belowOther : bound < other) :
    Agrees bound (tableArgumentsFrom levels limit) (tableArgumentsFrom levels other) := by
  refine Agrees.of_step (fun limit _ => tableArgumentsFrom levels limit) 1 (fun limit other _ => ?_)
    (fun bound limit other agree _ => ?_) below belowOther ()
  · unfold tableArgumentsFrom
    refine Agrees.followedBy fun found => ?_
    split <;> infer_instance
  · have agreeInside := agree ()
    unfold tableArgumentsFrom
    refine Agrees.followedBy fun found => ?_
    split <;> infer_instance

instance : Stops (tableArguments levels) := by
  unfold tableArguments
  refine Stops.followedBy fun closes => ?_
  split
  · infer_instance
  · exact Stops.bind_remaining (fun _ => inferInstance) fun _ _ _ le leOther =>
      agrees_tableArgumentsFrom levels (Nat.lt_succ_of_le le) (Nat.lt_succ_of_le leOther)

instance (reader : Reader Expr) [Stops reader] : Stops (named reader) := by
  unfold named
  infer_instance

instance : Stops (turnedValues levels) := by
  unfold turnedValues
  infer_instance

instance : Stops (namedCall levels) := by
  unfold namedCall
  have called : Stops (do require (← next).token.isWord; call levels) :=
    Stops.bind_next (fun lexeme => inferInstance) fun _ _ _ => rfl
  infer_instance

instance : Stops (rowsToColumns levels) := by
  unfold rowsToColumns
  infer_instance

instance : Stops (columnsToRows levels) := by
  unfold columnsToRows
  infer_instance

instance : Stops (turn levels) := by
  unfold turn
  refine Stops.followedBy fun found => ?_
  split <;> infer_instance

instance : Takes Option.isSome (turn levels) := by
  unfold turn
  exact Takes.bind_option (fun _ => inferInstance) Takes.pure_none

instance (first : Source) : Stops (withTurns levels first) := by
  unfold withTurns
  infer_instance

instance : Stops (patternSearch levels) := by
  unfold patternSearch
  infer_instance

instance (first : Source) : Stops (withPattern levels first) := by
  unfold withPattern
  infer_instance

instance : Stops (derivedSource levels) := by
  unfold derivedSource
  infer_instance

instance : Stops (nestedSource levels) := by
  unfold nestedSource
  refine Stops.followedBy fun found => ?_
  split
  · infer_instance
  · refine Stops.followedBy fun generic => Stops.followedBy fun _ => Stops.followedBy fun _ =>
      Stops.followedBy fun outer => ?_
    split
    infer_instance

instance (depth : Nat) : Stops (documentColumn levels depth) := by
  induction depth with
  | zero => exact Stops.unexpected
  | succ depth inductionHypothesis =>
      unfold documentColumn
      infer_instance

instance : Stops (openedColumn levels) := by
  unfold openedColumn
  infer_instance

instance : Stops (openedSource levels) := by
  unfold openedSource
  infer_instance

instance : Stops (markupColumn levels) := by
  unfold markupColumn
  infer_instance

instance : Stops (markupSource levels) := by
  unfold markupSource
  infer_instance

instance : Stops (elementSource levels) := by
  unfold elementSource
  infer_instance

/-- A column that holds others takes a keyword before these. -/
theorem agrees_documentColumn
    {bound depth other : Nat}
    (below : bound < depth)
    (belowOther : bound < other) :
    Agrees bound (documentColumn levels depth) (documentColumn levels other) := by
  refine Agrees.of_step (fun depth _ => documentColumn levels depth) 1 (fun depth other _ => ?_)
    (fun bound depth other agree _ => ?_) below belowOther ()
  · unfold documentColumn
    infer_instance
  · have agreeInside := agree ()
    unfold documentColumn
    infer_instance

instance : Stops (documentColumns levels) := by
  unfold documentColumns
  refine Stops.bind_remaining (fun _ => inferInstance) fun _ _ _ le leOther => ?_
  have agree := agrees_documentColumn levels (Nat.lt_succ_of_le le) (Nat.lt_succ_of_le leOther)
  infer_instance

instance : Stops (documentSource levels) := by
  unfold documentSource
  infer_instance

instance : Stops (computedSource levels) := by
  unfold computedSource
  infer_instance

instance : Stops (namedSource levels) := by
  unfold namedSource
  infer_instance

instance : Stops (source levels) := by
  unfold source
  refine Stops.followedBy fun lateral => ?_
  split
  · infer_instance
  · refine Stops.followedBy fun opens => ?_
    split
    · refine Stops.followedBy fun derived => ?_
      split <;> infer_instance
    · refine Stops.followedBy fun computed => ?_
      split <;> infer_instance

instance : Stops (joinCondition levels) := by
  unfold joinCondition
  infer_instance

instance : Stops (join levels) := by
  unfold join
  infer_instance

instance : Takes Option.isSome (join levels) := by
  unfold join
  infer_instance

instance : Stops (item levels) := by
  unfold item
  infer_instance

instance : Stops (items levels) := by
  unfold items
  infer_instance

instance (early : Option (List TableItem)) : Stops (laterItems levels early) := by
  unfold laterItems
  split <;> infer_instance

end Levels

end Grammar
end Sql
end TableReach
