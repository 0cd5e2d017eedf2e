import TableReach.Proofs.Sql.Grammar.Laws

/-!
# Readers that the grammar is made of

The laws of readers hold for those that look at a lexeme or take one, and for lists,
brackets and optional parts that are read with readers of which they hold.
-/

namespace TableReach
namespace Sql
namespace Grammar

section Elementary

instance Stops.read : Stops (read : Reader Context) where
  suffix read := by
    cases read
    exact List.suffix_refl _
  goes _ _ _ _ _ _ := rfl
  halts _ _ _ := rfl

instance Leaves.read : Leaves (read : Reader Context) where
  leaves read := by
    cases read
    rfl

instance : Stops theDialect := by
  unfold theDialect
  infer_instance

instance : Leaves theDialect := by
  unfold theDialect
  infer_instance

instance : Stops (dialectIn dialects) := by
  unfold dialectIn
  infer_instance

instance : Leaves (dialectIn dialects) := by
  unfold dialectIn
  infer_instance

instance : Stops (standsIn place) := by
  unfold standsIn
  infer_instance

instance : Leaves (standsIn place) := by
  unfold standsIn
  infer_instance

instance (reader : Reader α) [stop : Stops reader] : Stops (inPlace place reader) where
  suffix read := stop.suffix read
  goes _ _ spaced after nonempty closed := stop.goes _ spaced after nonempty closed
  halts _ spaced after := stop.halts _ spaced after

instance (reader : Reader α) [take : Takes given reader] : Takes given (inPlace place reader) where
  moves nonempty read isGiven := take.moves nonempty read isGiven
  nothing read := take.nothing read

instance : Stops (require condition) := by
  unfold require
  infer_instance

instance : Leaves (require condition) where
  leaves read := by
    cases condition with
    | true =>
        cases read
        rfl
    | false => exact nomatch read

instance : Goes skip where
  suffix read := by
    cases read
    exact List.drop_suffix _ _
  goes context lexemes spaced after nonempty _ := by
    cases lexemes with
    | nil => exact absurd rfl nonempty
    | cons lexeme rest => rfl

instance : Moves given skip where
  moves {context lexemes rest value} nonempty read _ := by
    cases lexemes with
    | nil => exact absurd rfl nonempty
    | cons lexeme others =>
        cases read
        exact Nat.lt_succ_self _

instance : Goes next where
  suffix {context lexemes rest value} read := by
    cases lexemes with
    | nil => exact nomatch read
    | cons lexeme others =>
        cases read
        exact List.suffix_cons _ _
  goes context lexemes spaced after nonempty _ := by
    cases lexemes with
    | nil => exact absurd rfl nonempty
    | cons lexeme rest => rfl

instance : Takes always next where
  moves {context lexemes rest value} nonempty read _ := by
    cases lexemes with
    | nil => exact absurd rfl nonempty
    | cons lexeme others =>
        cases read
        exact Nat.lt_succ_self _
  nothing read := nomatch read

instance : Leaves (peekAt index) where
  leaves read := by
    cases read
    rfl

instance : Leaves peek := by
  unfold peek
  infer_instance

/-- What is told about the next lexeme, if it is told of a semicolon as of no lexeme. -/
theorem Stops.peek_return
    {view : Option Lexeme → α}
    (alike : ∀ spaced, view (some (semicolon spaced)) = view none) :
    Stops (do return view (← peekAt 0)) :=
  Stops.bind_peek (fun _ => inferInstance) inferInstance fun context spaced after => by
    rw [alike]

/-- What is told about the lexeme after the next one, if it is told of a semicolon as of no
lexeme. -/
theorem Goes.peek_return
    {view : Option Lexeme → α}
    (alike : ∀ spaced, view (some (semicolon spaced)) = view none) :
    Goes (do return view (← peekAt 1)) where
  suffix read := by
    cases read
    exact List.suffix_refl _
  goes context lexemes spaced after nonempty _ := by
    rcases lexemes with _ | ⟨lexeme, _ | ⟨second, rest⟩⟩
    · exact absurd rfl nonempty
    · change Except.ok (view (some (semicolon spaced)), _) = _
      rw [alike]
      rfl
    · rfl

/-- What is told of a lexeme is not told at the end. -/
theorem Sees.peek_return
    {view : Option Lexeme → Bool}
    (alike : ∀ spaced, view (some (semicolon spaced)) = view none)
    (ends : view none = false) : Sees (do return view (← peekAt 0)) where
  toLeaves := inferInstance
  toStops := Stops.peek_return alike
  nonempty {context lexemes rest} seen := by
    rintro rfl
    have told : view none = true := congrArg Prod.fst (Except.ok.inj seen)
    rw [ends] at told
    exact nomatch told

/-- The symbol is not the one that ends a statement. -/
class Inner (text : String) : Prop where
  /-- It is another one. -/
  ne_semicolon : text ≠ ";"

instance : Inner "(" := ⟨by decide⟩
instance : Inner ")" := ⟨by decide⟩
instance : Inner "[" := ⟨by decide⟩
instance : Inner "]" := ⟨by decide⟩
instance : Inner "\x7b" := ⟨by decide⟩
instance : Inner "\x7d" := ⟨by decide⟩
instance : Inner "<" := ⟨by decide⟩
instance : Inner ">" := ⟨by decide⟩
instance : Inner ">>" := ⟨by decide⟩
instance : Inner "." := ⟨by decide⟩
instance : Inner "," := ⟨by decide⟩
instance : Inner ":" := ⟨by decide⟩
instance : Inner "=" := ⟨by decide⟩
instance : Inner ":=" := ⟨by decide⟩
instance : Inner "=>" := ⟨by decide⟩
instance : Inner "+" := ⟨by decide⟩
instance : Inner "-" := ⟨by decide⟩
instance : Inner "*" := ⟨by decide⟩
instance : Inner "|" := ⟨by decide⟩
instance : Inner "|>" := ⟨by decide⟩

theorem symbol_of_semicolon
    (text : String)
    [inner : Inner text]
    (spaced : Bool) :
    ((some (semicolon spaced)).map Lexeme.token == some (.symbol text)) = false := by
  simpa [semicolon] using inner.ne_semicolon.symm

instance : Stops nextKeyword :=
  Stops.peek_return fun _ => rfl

instance : Goes (keywordAt 1) :=
  Goes.peek_return fun _ => rfl

instance : Leaves (keywordAt index) := by
  unfold keywordAt
  infer_instance

instance : Sees (comesWord word) :=
  Sees.peek_return (fun _ => rfl) rfl

instance : Sees (isWordAt 0) :=
  Sees.peek_return (fun _ => rfl) rfl

instance : Goes (isWordAt 1) :=
  Goes.peek_return fun _ => rfl

instance : Leaves (isWordAt index) := by
  unfold isWordAt
  infer_instance

instance [Inner text] : Sees (comesSymbol text) :=
  Sees.peek_return (symbol_of_semicolon text) rfl

instance [Inner text] : Goes (comesSymbolAt 1 text) :=
  Goes.peek_return (symbol_of_semicolon text)

instance : Leaves (comesSymbolAt index text) := by
  unfold comesSymbolAt
  infer_instance

instance : Stops (acceptWord word) := by
  unfold acceptWord
  infer_instance

instance : Takes id (acceptWord word) := by
  unfold acceptWord
  infer_instance

instance [Inner text] : Stops (acceptSymbol text) := by
  unfold acceptSymbol
  infer_instance

instance [Inner text] : Takes id (acceptSymbol text) := by
  unfold acceptSymbol
  infer_instance

/-- A symbol that comes next is taken. -/
theorem acceptSymbol_of_eq
    (context : Context)
    {lexeme : Lexeme}
    {text : String}
    (rest : List Lexeme)
    (isSymbol : lexeme.token = .symbol text) :
    acceptSymbol text context (lexeme :: rest) = .ok (true, rest) := by
  have fit : (some lexeme.token == some (.symbol text)) = true := by
    rw [isSymbol]
    exact beq_self_eq_true _
  have comes : comesSymbol text context (lexeme :: rest) = .ok (true, lexeme :: rest) :=
    congrArg (fun found => Except.ok (found, lexeme :: rest)) fit
  rw [acceptSymbol, run_bind, comes]
  rfl

/-- Without the symbol nothing is taken. -/
theorem acceptSymbol_of_ne
    (context : Context)
    {lexeme : Lexeme}
    {text : String}
    (rest : List Lexeme)
    (noSymbol : lexeme.token ≠ .symbol text) :
    acceptSymbol text context (lexeme :: rest) = .ok (false, lexeme :: rest) := by
  have unfit : (some lexeme.token == some (.symbol text)) = false :=
    beq_false_of_ne fun same => noSymbol (Option.some.inj same)
  have comes : comesSymbol text context (lexeme :: rest) = .ok (false, lexeme :: rest) :=
    congrArg (fun found => Except.ok (found, lexeme :: rest)) unfit
  rw [acceptSymbol, run_bind, comes]
  rfl

/-- Behind keywords stands an end of the lexemes. -/
theorem suffix_of_behindWords?
    {words : List String}
    {lexemes rest : List Lexeme}
    (found : behindWords? words lexemes = some rest) : rest <:+ lexemes := by
  induction words generalizing lexemes with
  | nil =>
      cases found
      exact List.suffix_refl _
  | cons word words inductionHypothesis =>
      cases lexemes with
      | nil => exact nomatch found
      | cons lexeme others =>
          rw [behindWords?] at found
          split at found
          · exact (inductionHypothesis found).trans (List.suffix_cons _ _)
          · exact nomatch found

/-- No keyword is a semicolon. -/
theorem behindWords?_append
    (words : List String)
    (lexemes : List Lexeme)
    (spaced : Bool)
    (after : List Lexeme) :
    behindWords? words (lexemes ++ semicolon spaced :: after) =
      (behindWords? words lexemes).map (· ++ semicolon spaced :: after) := by
  induction words generalizing lexemes with
  | nil => rfl
  | cons word words inductionHypothesis =>
      cases lexemes with
      | nil => rfl
      | cons lexeme others =>
          rw [List.cons_append, behindWords?, behindWords?]
          split
          · exact inductionHypothesis others
          · rfl

/-- What keywords give: whether they come next, and what stands behind them. -/
theorem run_acceptWords
    (words : List String)
    (context : Context)
    (lexemes : List Lexeme) :
    acceptWords words context lexemes =
      match behindWords? words lexemes with
      | some rest => .ok (true, rest)
      | none => .ok (false, lexemes) := by
  change (match behindWords? words lexemes with
    | some rest => (do set rest; return true : Reader Bool)
    | none => return false) context lexemes = _
  cases behindWords? words lexemes <;> rfl

instance : Stops (acceptWords words) := by
  have suffix {context lexemes rest value}
      (read : acceptWords words context lexemes = .ok (value, rest)) : rest <:+ lexemes := by
    rw [run_acceptWords] at read
    split at read
    · next found =>
        cases read
        exact suffix_of_behindWords? found
    · cases read
      exact List.suffix_refl _
  have stops (context lexemes spaced after) :
      acceptWords words context (lexemes ++ semicolon spaced :: after) =
        leaving (semicolon spaced :: after) (acceptWords words context lexemes) := by
    rw [run_acceptWords, run_acceptWords, behindWords?_append]
    cases behindWords? words lexemes <;> rfl
  exact {
    suffix := suffix
    goes := fun _ _ _ _ _ _ => stops _ _ _ _
    halts := fun _ _ _ => stops _ [] _ _ }

instance : Takes id (acceptWords (word :: words)) where
  moves {context lexemes rest value} nonempty read isGiven := by
    cases lexemes with
    | nil => exact absurd rfl nonempty
    | cons lexeme others =>
        rw [run_acceptWords, behindWords?] at read
        split at read
        · next found =>
            cases read
            split at found
            · exact Nat.lt_succ_of_le (suffix_of_behindWords? found).length_le
            · exact nomatch found
        · cases read
          exact nomatch isGiven
  nothing read := by
    cases read
    rfl

instance : Stops (acceptAnyWords choices) := by
  induction choices with
  | nil => exact Stops.pure _
  | cons words others inductionHypothesis =>
      unfold acceptAnyWords
      infer_instance

instance : Stops (acceptAnyWord words) := by
  unfold acceptAnyWord
  refine Stops.bind_peek (fun lexeme => ?_) (Stops.pure none) fun context spaced after => ?_
  · split <;> infer_instance
  · have unfit : words.find? (semicolon spaced).spells = none :=
      List.find?_eq_none.mpr fun _ _ => Bool.false_ne_true
    rw [Option.bind_some, unfit]
    rfl

instance : Takes Option.isSome (acceptAnyWord words) := by
  unfold acceptAnyWord
  refine Takes.bind_peek (fun lexeme => ?_) (Takes.pure_none)
  split <;> infer_instance

instance : Stops (acceptSomeWord words) := by
  unfold acceptSomeWord
  infer_instance

instance : Takes id (acceptSomeWord words) where
  moves nonempty read isGiven := by
    obtain ⟨found, middle, taken, later⟩ := exists_of_run_bind read
    cases later
    exact Takes.takes taken isGiven
  nothing read := by
    obtain ⟨found, middle, taken, later⟩ := exists_of_run_bind read
    cases later
    have absent : found.isSome = false := Takes.nothing taken
    exact absent

/-- A condition that takes a lexeme has to hold. -/
instance Takes.require
    (condition : Reader Bool)
    [take : Takes id condition] : Takes always (condition >>= fun holds => Grammar.require holds) := by
  have held {context lexemes rest holds}
      (read : Grammar.require holds context lexemes = .ok ((), rest)) :
      holds = true ∧ rest = lexemes := by
    cases holds with
    | true =>
        cases read
        exact ⟨rfl, rfl⟩
    | false => exact nomatch read
  exact {
    moves := fun nonempty read _ => by
      obtain ⟨holds, middle, found, later⟩ := exists_of_run_bind read
      obtain ⟨rfl, rfl⟩ := held later
      exact take.takes found rfl
    nothing := fun read => by
      obtain ⟨holds, middle, found, later⟩ := exists_of_run_bind read
      obtain ⟨rfl, rfl⟩ := held later
      exact nomatch take.nothing found }

instance : Stops (expectWord word) := by
  unfold expectWord
  infer_instance

instance : Stops (expectWords words) := by
  unfold expectWords
  infer_instance

instance : Takes always (expectWords (word :: words)) := by
  unfold expectWords
  infer_instance

instance : Stops (expectAnyWord words) := by
  unfold expectAnyWord
  refine Stops.followedBy fun found => ?_
  split <;> infer_instance

instance [Inner text] : Stops (expectSymbol text) := by
  unfold expectSymbol
  infer_instance

instance [Inner text] : Takes always (expectSymbol text) := by
  unfold expectSymbol
  infer_instance

end Elementary

section Combined

instance (reader : Reader α) [go : Goes reader] : Goes (attempt reader) where
  suffix {context lexemes rest value} read := by
    unfold attempt at read
    split at read
    · next found =>
        cases read
        exact go.suffix found
    · cases read
      exact List.suffix_refl _
    · exact nomatch read
  goes context lexemes spaced after nonempty closed := by
    unfold attempt
    rw [go.goes context spaced after nonempty closed]
    rcases reader context lexemes with (_ | _) | ⟨value, rest⟩ <;> rfl

instance (reader : Reader α) [stop : Stops reader] : Stops (attempt reader) where
  halts context spaced after := by
    unfold attempt
    rw [stop.halts context spaced after]
    rcases reader context [] with (_ | _) | ⟨value, rest⟩ <;> rfl

instance (reader : Reader (Option α)) [go : Goes reader] : Goes (orBack reader) where
  suffix {context lexemes rest value} read := by
    unfold orBack at read
    split at read
    · cases read
      exact List.suffix_refl _
    · exact go.suffix read
  goes context lexemes spaced after nonempty closed := by
    unfold orBack
    rw [go.goes context spaced after nonempty closed]
    rcases reader context lexemes with _ | ⟨_ | value, rest⟩ <;> rfl

instance (reader : Reader α) [Stops reader] : Stops (when? condition reader) := by
  unfold when?
  infer_instance

instance (reader : Reader (List α)) [Stops reader] : Stops (afterWord word reader) := by
  unfold afterWord
  infer_instance

instance (reader : Reader (List α)) [Stops reader] : Stops (afterWords words reader) := by
  unfold afterWords
  infer_instance

instance (item : Reader α) [Stops item] : Stops (commaSeparated item) := by
  unfold commaSeparated
  infer_instance

instance (reader : Reader α) [Stops reader] : Stops (bracketed reader) := by
  unfold bracketed
  infer_instance

instance (reader : Reader α) [Stops reader] : Takes always (bracketed reader) := by
  unfold bracketed
  infer_instance

instance (item : Reader α) [Stops item] : Stops (bracketedList item) := by
  unfold bracketedList
  infer_instance

instance (item : Reader α) [Stops item] [Inner close] :
    Stops (commaSeparatedBefore close item) := by
  unfold commaSeparatedBefore
  infer_instance

instance (item : Reader α) [Stops item] : Stops (bracketedItems item) := by
  unfold bracketedItems
  infer_instance

-- The default size is too small where several readers follow one another.
set_option synthInstance.maxSize 4096

instance Agrees.commaSeparated
    (bound : Nat)
    (item other : Reader α)
    [Stops item]
    [Agrees bound item other] :
    Agrees bound (commaSeparated item) (commaSeparated other) := by
  unfold Grammar.commaSeparated
  infer_instance

instance Agrees.bracketed
    (bound : Nat)
    (reader other : Reader α)
    [Stops reader]
    [Agrees bound reader other] : Agrees (bound + 1) (bracketed reader) (bracketed other) := by
  unfold Grammar.bracketed
  infer_instance

instance Agrees.bracketedList
    (bound : Nat)
    (item other : Reader α)
    [Stops item]
    [Agrees bound item other] :
    Agrees (bound + 1) (bracketedList item) (bracketedList other) := by
  unfold Grammar.bracketedList
  infer_instance

instance (item other : Reader α) [Stops item] [Agrees bound item other] :
    Agrees bound (bracketedList item) (bracketedList other) :=
  (Agrees.bracketedList bound item other).mono (Nat.le_succ _)

end Combined

section Nesting

/-- The readers of nested parts stop at a semicolon. -/
class Levels.Stop (levels : Levels) : Prop where
  /-- Expressions stop. -/
  expressionAbove (strength : Nat) : Stops (levels.expressionAbove strength)
  /-- Operands stop. -/
  operand : Stops levels.operand
  /-- Columns stop. -/
  column : Stops levels.column
  /-- Queries stop. -/
  query : Stops levels.query
  /-- Sources stop. -/
  item : Stops levels.item

attribute [instance] Levels.Stop.expressionAbove Levels.Stop.operand Levels.Stop.column
  Levels.Stop.query Levels.Stop.item

instance (levels : Levels) [levels.Stop] : Stops levels.expression := by
  unfold Levels.expression
  infer_instance

instance (levels : Levels) [levels.Stop] : Stops levels.expressions := by
  unfold Levels.expressions
  infer_instance

end Nesting

end Grammar
end Sql
end TableReach
