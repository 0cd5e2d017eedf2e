import TableReach.Sql.Grammar.Expression
import TableReach.Proofs.Sql.Grammar.Call

/-!
# Expressions stop at a semicolon
-/

namespace TableReach
namespace Sql
namespace Grammar

set_option synthInstance.maxSize 100000

section Power

theorem bindingOfKeyword_of_ne
    (dialect : Dialect)
    (place : Place)
    (keyword third : String)
    {second : String}
    (noTime : second ≠ "TIME") :
    bindingOfKeyword dialect place keyword second third =
      bindingOfKeyword dialect place keyword second "" := by
  have noZone (text : String) : (second == "TIME" && text == "ZONE") = false := by
    rw [beq_false_of_ne noTime, Bool.false_and]
  unfold bindingOfKeyword
  simp only [noZone]

instance : Goes keywordBinding where
  suffix read := by
    cases read
    exact List.suffix_refl _
  goes context lexemes spaced after nonempty _ := by
    rcases lexemes with _ | ⟨first, _ | ⟨second, _ | ⟨third, rest⟩⟩⟩
    · exact absurd rfl nonempty
    · -- Behind the semicolon stands what may be taken for a third keyword.
      change Except.ok (bindingOfKeyword _ _ _ "" _, _) = _
      rw [bindingOfKeyword_of_ne _ _ _ _ (by decide)]
      rfl
    · rfl
    · rfl

instance : Stops nextBinding := by
  unfold nextBinding
  refine Stops.bind_peek (fun lexeme => ?_) (Stops.pure none) fun context spaced after => ?_
  · split <;> infer_instance
  · rcases context with ⟨_ | _ | _ | _, place⟩ <;> rfl

instance : Stops nextPower := by
  unfold nextPower
  infer_instance

instance : Stops (power binding) := by
  unfold power
  infer_instance

instance : Leaves (power binding) := by
  unfold power
  infer_instance

end Power

instance : Sees comesBracketedQuery where
  leaves read := by
    cases read
    rfl
  suffix read := by
    cases read
    exact List.suffix_refl _
  goes context lexemes spaced after nonempty _ := by
    rcases lexemes with _ | ⟨first, _ | ⟨second, rest⟩⟩
    · exact absurd rfl nonempty
    · rfl
    · rfl
  halts context spaced after := by
    change Except.ok (_ && ((some (semicolon spaced)).map Lexeme.token == _), _) = _
    rw [symbol_of_semicolon, Bool.and_false]
    rfl
  nonempty {context lexemes rest} seen := by
    rintro rfl
    exact nomatch seen

instance : Stops comesQuery := by
  unfold comesQuery
  infer_instance

instance : Stops textSearch := by
  unfold textSearch
  infer_instance

instance : Stops collation := by
  unfold collation
  infer_instance

instance : Stops escapeClause := by
  unfold escapeClause
  infer_instance

section Levels

variable (levels : Levels) [levels.Stop]

instance : Stops (choice levels) := by
  unfold choice
  infer_instance

instance : Stops (conversion levels) := by
  unfold conversion
  infer_instance

instance : Stops (recoding levels) := by
  unfold recoding
  infer_instance

instance : Stops (existence levels) := by
  unfold existence
  infer_instance

instance : Stops (extraction levels) := by
  unfold extraction
  infer_instance

instance : Stops (rounding levels) := by
  unfold rounding
  infer_instance

instance : Stops (position levels) := by
  unfold position
  refine Stops.followedBy fun found => ?_
  split <;> infer_instance

instance : Stops (substring levels) := by
  unfold substring
  infer_instance

instance : Stops (overlay levels) := by
  unfold overlay
  infer_instance

instance : Stops (trimming levels) := by
  unfold trimming
  infer_instance

instance : Stops (arrayItems levels) := by
  unfold arrayItems
  infer_instance

instance : Stops (record levels) := by
  unfold record
  infer_instance

instance (key : Reader Expr) [Stops key] : Stops (keyedValues levels key) := by
  unfold keyedValues
  infer_instance

instance : Stops (negation levels) := by
  unfold negation
  infer_instance

instance : Stops (specialForm levels keyword) := by
  unfold specialForm
  refine Stops.followedBy fun dialect => ?_
  split <;> infer_instance

instance : Stops (plainForm levels text quote) := by
  unfold plainForm
  refine Stops.followedBy fun isCall => ?_
  split
  · infer_instance
  · refine Stops.bind_peek (fun lexeme => ?_) (Stops.pure _) fun _ _ _ => rfl
    split <;> infer_instance

instance : Stops (wordOperand levels text quote keyword) := by
  unfold wordOperand
  refine Stops.followedBy fun form => ?_
  split <;> infer_instance

instance : Stops (typedLiteral levels) := by
  unfold typedLiteral
  refine Stops.followedBy fun found => ?_
  split <;> infer_instance

instance : Stops (bracedForm levels) := by
  unfold bracedForm
  exact Stops.bind_next (fun lexeme => inferInstance) fun _ _ _ => rfl

instance : Stops (braced levels) := by
  unfold braced
  refine Stops.followedBy fun _ => Stops.followedBy fun form => ?_
  split <;> infer_instance

instance : Stops (grouped levels) := by
  unfold grouped
  infer_instance

instance : Goes (symbolOperand levels symbol) := by
  unfold symbolOperand
  refine Goes.followedLeaving fun postgresql => ?_
  split <;> infer_instance

instance : Stops (simpleOperand levels) := by
  unfold simpleOperand
  refine Stops.bind_peek (fun lexeme => ?_) Stops.unexpected fun context spaced after => ?_
  · dsimp only
    split <;> infer_instance
  · rcases context with ⟨_ | _ | _ | _, place⟩ <;> rfl

instance : Stops (operand levels) := by
  unfold operand
  refine Stops.followedBy fun found => ?_
  split <;> infer_instance

instance : Stops (subscript levels) := by
  unfold subscript
  infer_instance

instance (limit : Nat) (named : Bool) : Stops (accesses levels limit named) := by
  induction limit generalizing named with
  | zero => exact Stops.pure _
  | succ limit inductionHypothesis =>
      unfold accesses
      infer_instance

/-- Each step to a part takes a lexeme. -/
theorem agrees_accesses
    {bound limit other : Nat}
    (le : bound ≤ limit)
    (leOther : bound ≤ other)
    (named : Bool) :
    Agrees bound (accesses levels limit named) (accesses levels other named) := by
  refine Agrees.of_step (accesses levels) 0 (fun limit other named => ?_)
    (fun bound limit other agree named => ?_) le leOther named
  · have ends (limit : Nat) (context : Context) :
        accesses levels limit named context [] = .ok ([], []) := by
      cases limit <;> rfl
    exact Agrees.of_nil _ (ends limit) (ends other)
  · unfold accesses
    infer_instance

instance : Stops (accessSteps levels named) := by
  unfold accessSteps
  exact Stops.bind_remaining (fun _ => inferInstance) fun _ _ _ le leOther =>
    agrees_accesses levels le leOther named

instance : Stops (operandWithAccess levels) := by
  unfold operandWithAccess
  infer_instance

instance : Stops (rightOperand levels left strength quantifiable) := by
  unfold rightOperand
  infer_instance

instance : Stops (membership levels left) := by
  unfold membership
  refine Stops.followedBy fun unnest => ?_
  split
  · infer_instance
  · have inside : Stops (do
        match ← attempt levels.query with
        | some query => return Expr.compound [left, .subquery query]
        | none =>
            if (← dialectIn [.sqlite]) then
              if ← comesSymbol ")" then return left
            return .compound (left :: (← levels.expressions))) := by
      refine Stops.followedBy fun query => ?_
      split <;> infer_instance
    infer_instance

instance : Stops (pattern levels left) := by
  unfold pattern
  infer_instance

instance : Stops (negatableTest levels left) := by
  unfold negatableTest
  infer_instance

instance : Stops (natureTest levels left) := by
  unfold natureTest
  infer_instance

/-- The name of an operator in brackets stops at a semicolon, unless its last part is missing. -/
theorem bracketed_operatorName_append
    (context : Context)
    {lexemes : List Lexeme}
    (spaced : Bool)
    (after : List Lexeme)
    (closed : isClosed lexemes = true)
    (complete : ∀ bracket inside, lexemes = bracket :: inside → bracket.token = .symbol "(" →
      lacksOperator inside = false) :
    bracketed operatorName context (lexemes ++ semicolon spaced :: after) =
      leaving (semicolon spaced :: after) (bracketed operatorName context lexemes) := by
  obtain _ | ⟨bracket, inside⟩ := lexemes
  · rfl
  · rw [bracketed, expectSymbol, run_bind, run_bind, run_bind, run_bind, List.cons_append]
    by_cases opens : bracket.token = .symbol "("
    · rw [acceptSymbol_of_eq _ _ opens, acceptSymbol_of_eq _ _ opens]
      exact bind_leaving (isClosed_of_suffix closed (List.suffix_cons _ _))
        (operatorName_append context spaced after (complete bracket inside rfl opens))
    · rw [acceptSymbol_of_ne _ _ opens, acceptSymbol_of_ne _ _ opens]
      rfl

instance : Shortens (bracketed operatorName) := by
  unfold bracketed
  infer_instance

/-- An operator that is written with its keyword stops at a semicolon, unless its last part is
missing. -/
theorem goesFrom_operatorInfix
    (left : Expr)
    (strength : Nat)
    {keyword : Lexeme}
    (isKeyword : keyword.keyword = "OPERATOR") :
    GoesFrom keyword (operatorInfix levels left strength) := by
  intro context rest spaced after closed
  have complete (bracket : Lexeme) (inside : List Lexeme) (same : rest = bracket :: inside)
      (opens : bracket.token = .symbol "(") : lacksOperator inside = false := by
    subst same
    simpa [endsInOperator, isKeyword, opens] using (ends_of_isClosed closed).2
  have behind (lexemes : List Lexeme) :
      operatorInfix levels left strength context (keyword :: lexemes) =
        if [.generic, .postgresql].contains context.dialect then
          (bracketed operatorName >>= fun _ => rightOperand levels left strength false)
            context lexemes
        else .error .unexpected := by
    rcases context with ⟨_ | _ | _ | _, place⟩ <;> rfl
  rw [List.cons_append, behind, behind]
  split
  · have closedRest := isClosed_of_suffix closed (List.suffix_cons _ _)
    exact bind_leaving closedRest
      (bracketed_operatorName_append context spaced after closedRest complete)
  · rfl

theorem goes_wordInfix
    (left : Expr)
    (strength : Nat)
    {keyword : String}
    (notNamed : keyword ≠ "OPERATOR") : Goes (wordInfix levels left strength keyword) := by
  unfold wordInfix
  refine Goes.followedLeaving fun dialect => ?_
  split <;> first | infer_instance | exact absurd rfl notNamed

instance : Takes always (negatableTest levels left) := by
  unfold negatableTest
  refine Takes.bind_bool ?_ ?_
  · infer_instance
  · simp only [Bool.false_and, Bool.false_eq_true, if_false]
    infer_instance

instance : Shortens (operatorInfix levels left strength) := by
  unfold operatorInfix
  infer_instance

instance : Moves always (operatorInfix levels left strength) := by
  unfold operatorInfix
  infer_instance

instance : Shortens (wordInfix levels left strength keyword) := by
  by_cases named : keyword = "OPERATOR"
  · subst named
    exact @Shortens.bind _ _ _ _ inferInstance fun _ =>
      inferInstanceAs (Shortens (operatorInfix levels left strength))
  · exact (goes_wordInfix levels left strength named).toShortens

instance : Moves always (wordInfix levels left strength keyword) := by
  unfold wordInfix
  refine Moves.followedLeaving fun dialect => ?_
  split <;> infer_instance

instance : Stops (infixPart levels left strength) := by
  unfold infixPart
  refine Stops.bind_peek_of_goesFrom (fun lexeme => ?_) (fun lexeme => ?_) Stops.unexpected
    fun context spaced after => ?_
  · dsimp only
    split <;> infer_instance
  · dsimp only
    split
    case h_5 =>
      -- The name of an operator may be any lexeme, but the lexemes do not end before it.
      by_cases named : lexeme.keyword = "OPERATOR"
      · rw [named]
        exact goesFrom_operatorInfix levels left strength named
      · have := goes_wordInfix levels left strength named
        exact Goes.goesFrom _ lexeme
    all_goals exact Goes.goesFrom _ lexeme
  · rcases context with ⟨_ | _ | _ | _, place⟩ <;> rfl

instance : Takes always (infixPart levels left strength) := by
  unfold infixPart
  refine Takes.bind_peek (fun lexeme => ?_) (Takes.unexpected _)
  dsimp only
  split <;> infer_instance

instance (strength limit : Nat) (left : Expr) : Stops (infixes levels strength limit left) := by
  induction limit generalizing left with
  | zero => exact Stops.pure _
  | succ limit inductionHypothesis =>
      unfold infixes
      infer_instance

/-- Each operator takes a lexeme. -/
theorem agrees_infixes
    (strength : Nat)
    {bound limit other : Nat}
    (le : bound ≤ limit)
    (leOther : bound ≤ other)
    (left : Expr) :
    Agrees bound (infixes levels strength limit left) (infixes levels strength other left) := by
  refine Agrees.of_step (infixes levels strength) 0 (fun limit other left => ?_)
    (fun bound limit other agree left => ?_) le leOther left
  · have ends (limit : Nat) (context : Context) :
        infixes levels strength limit left context [] = .ok (left, []) := by
      cases limit <;> rfl
    exact Agrees.of_nil _ (ends limit) (ends other)
  · unfold infixes
    infer_instance

instance : Stops (expressionAbove levels strength) := by
  unfold expressionAbove
  refine Stops.followedBy fun left => Stops.followedBy fun _ => ?_
  exact Stops.bind_remaining (fun _ => inferInstance) fun _ _ _ le leOther =>
    agrees_infixes levels strength le leOther left

end Levels

end Grammar
end Sql
end TableReach
