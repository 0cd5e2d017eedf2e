import TableReach.Sql.Grammar.Statement
import TableReach.Proofs.Sql.Grammar.Column

/-!
# Statements end at a semicolon

A query or a change of rows is the same statement whether its lexemes end behind it or
a semicolon and further lexemes follow.
-/

namespace TableReach
namespace Sql
namespace Grammar

instance (depth : Nat) : (levels depth).Stop := by
  induction depth with
  | zero =>
      exact {
        expressionAbove := fun _ => Stops.throw _
        operand := Stops.throw _
        column := Stops.throw _
        query := Stops.throw _
        item := Stops.throw _ }
  | succ depth inductionHypothesis =>
      exact {
        expressionAbove := fun strength =>
          inferInstanceAs (Stops (expressionAbove (levels depth) strength))
        operand := inferInstanceAs (Stops (operand (levels depth)))
        column := inferInstanceAs (Stops (newColumn (levels depth)))
        query := inferInstanceAs (Stops (query (levels depth)))
        item := inferInstanceAs (Stops (item (levels depth))) }

/-- What comes first tells whether a statement is a query. -/
theorem run_statement
    (levels : Levels)
    (context : Context)
    (first : Lexeme)
    (rest : List Lexeme) :
    statement levels context (first :: rest) =
      if ["SELECT", "WITH", "VALUES", "FROM"].contains first.keyword ||
          some first.token == some (.symbol "(") then
        (do return Statement.query (← levels.query)) context (first :: rest)
      else statementBehind levels first.keyword context rest := by
  have keyword : nextKeyword context (first :: rest) = .ok (first.keyword, first :: rest) := rfl
  have opens : comesSymbol "(" context (first :: rest) =
      .ok (some first.token == some (.symbol "("), first :: rest) :=
    rfl
  rw [statement, run_bind, keyword]
  dsimp only
  cases ["SELECT", "WITH", "VALUES", "FROM"].contains first.keyword with
  | true => rfl
  | false =>
      simp only [Bool.false_eq_true, if_false, Bool.false_or]
      rw [run_bind, opens]
      cases some first.token == some (Token.symbol "(") <;> rfl

/-- The keywords of the statements that read or change rows. -/
def dataKeywords : List String :=
  ["WITH", "SELECT", "INSERT", "UPDATE", "DELETE"]

/-- A statement that reads or changes rows ends at a semicolon as at the end. -/
theorem statement_append
    (levels : Levels)
    [levels.Stop]
    (context : Context)
    {first : Lexeme}
    {rest : List Lexeme}
    (spaced : Bool)
    (after : List Lexeme)
    (known : first.keyword ∈ dataKeywords)
    (closed : isClosed (first :: rest) = true) :
    statement levels context (first :: rest ++ semicolon spaced :: after) =
      leaving (semicolon spaced :: after) (statement levels context (first :: rest)) := by
  have closedRest := isClosed_of_suffix closed (List.suffix_cons _ _)
  have query : Stops (do return Statement.query (← levels.query)) := inferInstance
  rw [List.cons_append, run_statement, run_statement]
  split
  · exact query.stops _ context spaced after closed
  · next noQuery =>
      simp only [dataKeywords, List.mem_cons, List.not_mem_nil, or_false] at known
      rcases known with same | same | same | same | same
      · exact absurd (by rw [same]; rfl) noQuery
      · exact absurd (by rw [same]; rfl) noQuery
      · rw [same]
        exact Stops.stops (insertion levels) context spaced after closedRest
      · rw [same]
        exact Stops.stops (updating levels) context spaced after closedRest
      · rw [same]
        exact Stops.stops (deletion levels) context spaced after closedRest

/-- Where the first lexeme is no semicolon, the first statement starts there. -/
theorem statement_of_statementsFrom
    {count : Nat}
    {context : Context}
    {first : Lexeme}
    {rest left : List Lexeme}
    {found : List Statement}
    (noSemicolon : first.token ≠ .symbol ";")
    (read : statementsFrom (count + 1) context (first :: rest) = .ok (found, left)) :
    ∃ head behind, statement (levels depthLimit) context (first :: rest) = .ok (head, behind) ∧
      found.head? = some head := by
  have skipped : many (do if ← acceptSymbol ";" then return some () else return none) context
      (first :: rest) = .ok ([], first :: rest) := by
    have absent : (do if ← acceptSymbol ";" then return some () else return none : Reader _) context
        (first :: rest) = .ok (none, first :: rest) := by
      rw [run_bind, acceptSymbol_of_ne context rest noSemicolon]
      rfl
    change repeatSome _ (rest.length + 1 + 1) context (first :: rest) = _
    rw [repeatSome, run_bind, absent]
    rfl
  have counted : remaining context (first :: rest) = .ok (rest.length + 1, first :: rest) := rfl
  rw [statementsFrom, run_bind, skipped] at read
  dsimp only at read
  rw [run_bind, counted] at read
  dsimp only at read
  rw [if_neg (by simp)] at read
  obtain ⟨head, behind, isHead, later⟩ := exists_of_run_bind read
  refine ⟨head, behind, isHead, ?_⟩
  obtain ⟨ended, _, _, last⟩ := exists_of_run_bind later
  cases ended with
  | true =>
      cases last
      rfl
  | false =>
      obtain ⟨others, _, _, whole⟩ := exists_of_run_bind last
      cases whole
      rfl

end Grammar
end Sql
end TableReach
