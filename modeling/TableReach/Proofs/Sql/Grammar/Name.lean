import TableReach.Sql.Grammar.Name
import TableReach.Proofs.Sql.Grammar.Reader

/-!
# Names and values stop at a semicolon
-/

namespace TableReach
namespace Sql
namespace Grammar

instance : Stops ident := by
  unfold ident
  refine Stops.bind_next (fun lexeme => ?_) fun _ _ _ => rfl
  split <;> infer_instance

instance : Takes always ident := by
  unfold ident
  refine Takes.followedBy fun lexeme => ?_
  split <;> infer_instance

instance : Stops objectName := by
  unfold objectName
  infer_instance

section Operator

instance : Shortens behindPeriod := by
  unfold behindPeriod
  refine @Shortens.bind _ _ _ _ inferInstance fun dotted => ?_
  split <;> infer_instance

instance : Takes Option.isSome behindPeriod := by
  unfold behindPeriod
  infer_instance

instance : Shortens operatorName := by
  unfold operatorName
  infer_instance

/-- The parts behind the first one stop at a semicolon, unless a period ends them. -/
theorem repeatSome_behindPeriod
    (limit : Nat)
    (context : Context)
    (first : Lexeme)
    {lexemes : List Lexeme}
    (spaced : Bool)
    (after : List Lexeme)
    (complete : lacksOperator (first :: lexemes) = false) :
    repeatSome behindPeriod limit context (lexemes ++ semicolon spaced :: after) =
      leaving (semicolon spaced :: after) (repeatSome behindPeriod limit context lexemes) := by
  induction limit generalizing first lexemes with
  | zero => rfl
  | succ limit inductionHypothesis =>
      rw [repeatSome, run_bind, run_bind]
      rcases lexemes with _ | ⟨period, rest⟩
      · rfl
      · by_cases isPeriod : period.token = .symbol "."
        · rw [lacksOperator, isPeriod, beq_self_eq_true, Bool.true_and] at complete
          obtain _ | ⟨second, rest⟩ := rest
          · exact nomatch complete
          · have taken (others : List Lexeme) :
                behindPeriod context (period :: second :: others) = .ok (some second, others) := by
              rw [behindPeriod, run_bind, acceptSymbol_of_eq _ _ isPeriod]
              rfl
            rw [List.cons_append, List.cons_append, taken, taken]
            simp only [run_bind, inductionHypothesis second complete]
            rcases repeatSome behindPeriod limit context rest with failure | ⟨parts, left⟩ <;> rfl
        · have left (others : List Lexeme) :
              behindPeriod context (period :: others) = .ok (none, period :: others) := by
            rw [behindPeriod, run_bind, acceptSymbol_of_ne _ _ isPeriod]
            rfl
          rw [List.cons_append, left, left]
          rfl

/-- The name of an operator stops at a semicolon, unless its last part is missing. -/
theorem operatorName_append
    (context : Context)
    {lexemes : List Lexeme}
    (spaced : Bool)
    (after : List Lexeme)
    (complete : lacksOperator lexemes = false) :
    operatorName context (lexemes ++ semicolon spaced :: after) =
      leaving (semicolon spaced :: after) (operatorName context lexemes) := by
  obtain _ | ⟨first, rest⟩ := lexemes
  · exact nomatch complete
  · have parts : many behindPeriod context (rest ++ semicolon spaced :: after) =
        leaving (semicolon spaced :: after) (many behindPeriod context rest) := by
      change repeatSome behindPeriod _ context (rest ++ semicolon spaced :: after) =
        leaving (semicolon spaced :: after) (repeatSome behindPeriod _ context rest)
      rw [repeatSome_behindPeriod _ context first spaced after complete]
      refine congrArg _ ((agrees_repeatSome behindPeriod ?_ ?_).agrees context (Nat.le_refl _))
      · rw [List.length_append]
        omega
      · exact Nat.lt_succ_self _
    change (many behindPeriod >>= fun _ => pure ()) context (rest ++ semicolon spaced :: after) =
      leaving (semicolon spaced :: after) ((many behindPeriod >>= fun _ => pure ()) context rest)
    rw [run_bind, run_bind, parts]
    rcases many behindPeriod context rest with failure | ⟨found, left⟩ <;> rfl

end Operator

instance : Stops identList := by
  unfold identList
  infer_instance

instance : Stops objectNameList := by
  unfold objectNameList
  infer_instance

instance : Stops (secondName reserved) := by
  unfold secondName
  refine Stops.followedBy fun explicit => ?_
  refine Stops.bind_peek (fun lexeme => ?_) inferInstance fun _ _ _ => rfl
  dsimp only
  split <;> infer_instance

instance : Stops columnLabel := by
  unfold columnLabel
  infer_instance

instance : Stops furtherString := by
  unfold furtherString
  refine Stops.bind_peek (fun lexeme => ?_) (Stops.pure none) fun _ _ _ => rfl
  split <;> infer_instance

instance : Takes Option.isSome furtherString := by
  unfold furtherString
  refine Takes.bind_peek (fun lexeme => ?_) Takes.pure_none
  split <;> infer_instance

instance : Stops furtherStrings := by
  unfold furtherStrings
  infer_instance

instance : Stops valueKind := by
  unfold valueKind
  refine Stops.bind_next (fun lexeme => ?_) fun _ _ _ => rfl
  split <;> try infer_instance
  -- Behind a colon or an at sign comes the name of a parameter.
  refine Stops.followedBy fun _ => Stops.bind_next (fun parameter => ?_) fun _ spaced _ => ?_
  · refine Stops.followedBy fun _ => ?_
    split <;> infer_instance
  · cases spaced <;> rfl

instance : Stops value := by
  unfold value
  infer_instance

instance : Stops numberValue := by
  unfold numberValue
  infer_instance

instance : Stops signedValue := by
  unfold signedValue
  infer_instance

instance : Stops literalString := by
  unfold literalString
  refine Stops.bind_next (fun lexeme => ?_) fun _ _ _ => rfl
  split <;> infer_instance

instance : Stops singleQuoted := by
  unfold singleQuoted
  refine Stops.bind_next (fun lexeme => ?_) fun _ _ _ => rfl
  split <;> infer_instance

instance : Sees comesSingleQuoted :=
  Sees.peek_return (fun _ => rfl) rfl

instance : Stops (wholeNumberBelow bound) := by
  unfold wholeNumberBelow
  refine Stops.bind_next (fun lexeme => ?_) fun _ _ _ => rfl
  split <;> infer_instance

instance : Stops wholeNumber := by
  unfold wholeNumber
  infer_instance

instance : Stops signedNumber := by
  unfold signedNumber
  infer_instance

instance : Stops optionalPrecision := by
  unfold optionalPrecision
  infer_instance

instance : Stops optionalPrecisionAndScale := by
  unfold optionalPrecisionAndScale
  infer_instance

instance : Stops optionalPrecisionAndSignedScale := by
  unfold optionalPrecisionAndSignedScale
  infer_instance

instance : Stops (optionalColumns emptyAllowed) := by
  unfold optionalColumns
  infer_instance

end Grammar
end Sql
end TableReach
