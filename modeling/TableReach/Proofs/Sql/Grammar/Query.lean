import TableReach.Sql.Grammar.Step
import TableReach.Proofs.Sql.Grammar.Source

/-!
# Queries stop at a semicolon
-/

namespace TableReach
namespace Sql
namespace Grammar

set_option synthInstance.maxSize 100000

instance : Stops columnsOrOne := by
  unfold columnsOrOne
  infer_instance

instance : Stops renamedColumn := by
  unfold renamedColumn
  infer_instance

instance : Stops endsColumns := by
  unfold endsColumns
  refine Stops.bind_peek (fun lexeme => ?_) (Stops.pure _) fun _ _ _ => rfl
  dsimp only
  split <;> infer_instance

instance : Stops storedInto := by
  unfold storedInto
  infer_instance

instance : Stops combinationQuantifier := by
  unfold combinationQuantifier
  infer_instance

instance : Stops fetch := by
  unfold fetch
  infer_instance

instance : Stops nameInBrackets := by
  unfold nameInBrackets
  infer_instance

instance : Stops markupOption := by
  unfold markupOption
  refine Stops.followedBy fun found => ?_
  split <;> infer_instance

instance : Stops markupForm := by
  unfold markupForm
  refine Stops.followedBy fun found => ?_
  dsimp only
  split <;> infer_instance

instance : Stops documentForm := by
  unfold documentForm
  infer_instance

instance : Stops lock := by
  unfold lock
  infer_instance

instance (limit : Nat) : Stops (locksAndForm limit) := by
  induction limit with
  | zero => exact Stops.pure _
  | succ limit inductionHypothesis =>
      unfold locksAndForm
      refine Stops.followedBy fun locked => ?_
      split
      · refine Stops.followedBy fun found => ?_
        split <;> infer_instance
      · infer_instance

/-- Each lock takes a keyword. -/
theorem agrees_locksAndForm
    {bound limit other : Nat}
    (le : bound ≤ limit)
    (leOther : bound ≤ other) : Agrees bound (locksAndForm limit) (locksAndForm other) := by
  refine Agrees.of_step (fun limit _ => locksAndForm limit) 0 (fun limit other _ => ?_)
    (fun bound limit other agree _ => ?_) le leOther ()
  · have ends (limit : Nat) (context : Context) : locksAndForm limit context [] = .ok ((), []) := by
      cases limit <;> rfl
    exact Agrees.of_nil _ (ends limit) (ends other)
  · have agreeInside := agree ()
    unfold locksAndForm
    refine @Agrees.bind_if _ _ _ _ _ _ _ _ _ (Agrees.followedBy fun found => ?_) inferInstance
    split <;> infer_instance

instance : Stops locksOrForm := by
  unfold locksOrForm
  exact Stops.bind_remaining (fun _ => inferInstance) fun _ _ _ le leOther =>
    agrees_locksAndForm le leOther

instance : Stops format := by
  unfold format
  infer_instance

/-- The keyword has to come first. -/
theorem run_tableBody
    (context : Context)
    (table : Lexeme)
    (rest : List Lexeme) :
    tableBody context (table :: rest) =
      if table.spells "TABLE" then wholeTable context rest else .error .unexpected := by
  have comes : comesWord "TABLE" context (table :: rest) =
      .ok (table.spells "TABLE", table :: rest) :=
    rfl
  simp only [tableBody, acceptWord, run_bind, comes]
  cases table.spells "TABLE" <;> rfl

/-- The name of a table comes next, or one of its parts and a period with another. -/
def startsWithTable (lexemes : List Lexeme) : Bool :=
  lexemes[0]?.any (·.token.isWord) &&
    (!(lexemes[1]?.map Lexeme.token == some (.symbol ".")) || lexemes[2]?.any (·.token.isWord))

/-- Three lexemes are taken, whatever the last of them are. -/
theorem run_wholeTable
    (context : Context)
    (lexemes : List Lexeme) :
    wholeTable context lexemes =
      if startsWithTable lexemes then .ok (.wholeTable, lexemes.drop 3) else .error .unexpected := by
  change (require (startsWithTable lexemes) >>= fun _ => _) context lexemes = _
  rw [run_bind]
  cases startsWithTable lexemes with
  | true =>
      change Except.ok (Body.wholeTable, ((lexemes.drop 1).drop 1).drop 1) = _
      rw [List.drop_drop, List.drop_drop]
      rfl
  | false => rfl

/-- The keyword and less than three lexemes behind it are left open, so that the three are there or
the name is not. -/
theorem wholeTable_append
    (context : Context)
    {table : Lexeme}
    {rest : List Lexeme}
    (spaced : Bool)
    (after : List Lexeme)
    (isTable : table.spells "TABLE" = true)
    (closed : isClosed (table :: rest) = true) :
    wholeTable context (rest ++ semicolon spaced :: after) =
      leaving (semicolon spaced :: after) (wholeTable context rest) := by
  have named := (ends_of_isClosed closed).1
  rw [run_wholeTable, run_wholeTable]
  rcases rest with _ | ⟨name, _ | ⟨other, _ | ⟨third, others⟩⟩⟩
  · rfl
  · have noName : name.token.isWord = false := by
      rwa [endsInTable, isTable, Bool.true_and] at named
    simp [startsWithTable, noName]
  · cases isName : name.token.isWord with
    | false => simp [startsWithTable, isName]
    | true =>
        have isDotted : other.token = .symbol "." := by
          simpa [endsInTable, isTable, isName] using named
        simp [startsWithTable, isDotted, semicolon, Token.isWord]
  · cases found : startsWithTable (name :: other :: third :: others) <;>
      simp_all [startsWithTable]

instance : Stops tableBody where
  suffix {context lexemes rest value} read := by
    rcases lexemes with _ | ⟨table, others⟩
    · exact nomatch read
    · rw [run_tableBody] at read
      split at read
      · rw [run_wholeTable] at read
        split at read
        · cases read
          exact (List.drop_suffix 3 others).trans (List.suffix_cons _ _)
        · exact nomatch read
      · exact nomatch read
  goes context lexemes spaced after nonempty closed := by
    rcases lexemes with _ | ⟨table, others⟩
    · exact absurd rfl nonempty
    · rw [List.cons_append, run_tableBody, run_tableBody]
      split
      · next isTable => exact wholeTable_append context spaced after isTable closed
      · rfl
  halts _ _ _ := rfl

section Levels

variable (levels : Levels) [levels.Stop]

instance : Stops (starOptions levels) := by
  unfold starOptions
  infer_instance

instance : Stops (column levels) := by
  unfold column
  infer_instance

instance : Stops (columns levels) := by
  unfold columns
  infer_instance

instance : Stops (quantifier levels) := by
  unfold quantifier
  infer_instance

instance : Stops (top levels) := by
  unfold top
  infer_instance

instance : Stops (lateralView levels) := by
  unfold lateralView
  infer_instance

instance : Takes Option.isSome (lateralView levels) := by
  unfold lateralView
  infer_instance

instance : Stops (tuple levels lifted) := by
  unfold tuple
  infer_instance

instance : Stops (groupingKey levels) := by
  unfold groupingKey
  infer_instance

instance : Stops (grouping levels) := by
  unfold grouping
  infer_instance

instance : Stops (namedWindow levels) := by
  unfold namedWindow
  infer_instance

instance : Stops (windowsAndQualification levels) := by
  unfold windowsAndQualification
  infer_instance

instance : Stops (hierarchy levels) := by
  unfold hierarchy
  dsimp only
  refine Stops.followedBy fun generic => ?_
  split
  · refine Stops.followedBy fun keyword => ?_
    split <;> infer_instance
  · infer_instance

instance : Stops (conditions levels) := by
  unfold conditions
  infer_instance

instance : Stops (selection levels) := by
  unfold selection
  infer_instance

instance : Stops (simpleBody levels) := by
  unfold simpleBody
  infer_instance

section Combination

variable (operators : List String) (right : String → Reader Body)
  [∀ operator, Stops (right operator)]

instance : Stops (combination operators right) := by
  unfold combination
  refine Stops.followedBy fun found => ?_
  split <;> infer_instance

instance : Takes Option.isSome (combination operators right) := by
  unfold combination
  exact Takes.bind_option (fun _ => inferInstance) Takes.pure_none

instance (first : Body) : Stops (combinations operators right first) := by
  unfold combinations
  infer_instance

end Combination

instance : Stops (intersections levels) := by
  unfold intersections
  infer_instance

instance : Stops (body levels) := by
  unfold body
  infer_instance

instance : Stops (namedQuery levels) := by
  unfold namedQuery
  infer_instance

instance : Stops (definitions levels) := by
  unfold definitions
  infer_instance

instance : Stops (offset levels) := by
  unfold offset
  infer_instance

instance : Stops (limit levels) := by
  unfold limit
  infer_instance

instance : Stops (limits levels) := by
  unfold limits
  refine Stops.followedBy fun isOffset => Stops.followedBy fun early =>
    Stops.followedBy fun isLimit => Stops.followedBy fun count => ?_
  split <;> infer_instance

instance : Stops (interpolation levels) := by
  unfold interpolation
  infer_instance

instance : Stops (order levels) := by
  unfold order
  infer_instance

instance
    (named : List NamedQuery)
    (steps : Reader (List Step))
    [Stops steps] : Stops (plainQuery levels named steps) := by
  unfold plainQuery
  infer_instance

section Step

instance : Stops (assignment levels) := by
  unfold assignment
  infer_instance

instance : Stops (assignments levels) := by
  unfold assignments
  infer_instance

instance : Stops (givenColumns levels) := by
  unfold givenColumns
  infer_instance

instance : Stops skipInside := by
  unfold skipInside
  exact Stops.bind_peek (fun lexeme => inferInstance) (Stops.pure none) fun _ _ _ => rfl

instance : Takes Option.isSome skipInside := by
  unfold skipInside
  exact Takes.bind_peek (fun lexeme => inferInstance) Takes.pure_none

instance : Stops skipToEnd := by
  unfold skipToEnd
  infer_instance

instance : Stops (aggregate levels) := by
  unfold aggregate
  infer_instance

instance : Stops (aggregation levels) := by
  unfold aggregation
  infer_instance

instance : Stops (combinedQueries levels) := by
  unfold combinedQueries
  infer_instance

instance : Stops (distinctQueries levels) := by
  unfold distinctQueries
  infer_instance

instance : Stops stepLabel := by
  unfold stepLabel
  infer_instance

instance : Stops (turningRows levels) := by
  unfold turningRows
  infer_instance

instance : Stops turningColumns := by
  unfold turningColumns
  infer_instance

instance : Stops (stepParts levels keyword) := by
  unfold stepParts
  split <;> infer_instance

instance : Stops (step levels) := by
  unfold step
  have joined : Stops (do
      match ← many (join levels) with
      | [joined] => return Step.join joined
      | _ => unexpected) := by
    refine Stops.followedBy fun found => ?_
    split <;> infer_instance
  have computed : Stops (do return Step.compute (← stepParts levels (← next).keyword)) :=
    Stops.bind_next (fun lexeme => inferInstance) fun _ _ _ => rfl
  infer_instance

instance : Stops (steps levels) := by
  unfold steps
  infer_instance

end Step

end Levels

end Grammar
end Sql
end TableReach
