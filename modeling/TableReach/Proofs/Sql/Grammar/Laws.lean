import TableReach.Sql.Grammar.Reader

/-!
# Readers and the end of a statement

A semicolon ends a statement as the end of the text does.  A reader that treats the
two alike reads the same from lexemes whether they end there or a semicolon and
further lexemes follow, and leaves what follows.  The laws of this module say so for
the readers that the grammar is made of; they are found by instance search for a
reader that is put together from others.

Two parts of the grammar take a lexeme whatever it is.  Lexemes that end inside of
such a part are left open, and nothing is said about them.
-/

namespace TableReach
namespace Sql
namespace Grammar

/-- A semicolon. -/
def semicolon (spaced : Bool) : Lexeme :=
  { token := .symbol ";", keyword := "", spaced := spaced }

/-- The keyword for all rows of a table, behind which three lexemes are taken in any case, and less
than three of them. -/
def endsInTable : List Lexeme → Bool
  | [table, name] => table.spells "TABLE" && name.token.isWord
  | [table, name, other] =>
      table.spells "TABLE" && name.token.isWord && other.token != .symbol "."
  | _ => false

/-- The dotted name of an operator without its last part, which can be any lexeme. -/
def lacksOperator : List Lexeme → Bool
  | [] => true
  | [_] => false
  | _ :: dot :: rest => dot.token == .symbol "." && lacksOperator rest

/-- An operator that is written with its keyword, up to its last part. -/
def endsInOperator : List Lexeme → Bool
  | operator :: bracket :: rest =>
      operator.keyword == "OPERATOR" && bracket.token == .symbol "(" && lacksOperator rest
  | _ => false

/-- The lexemes do not end inside of a part that takes whatever lexeme comes. -/
def isClosed : List Lexeme → Bool
  | [] => true
  | lexeme :: rest =>
      !endsInTable (lexeme :: rest) && !endsInOperator (lexeme :: rest) && isClosed rest

/-- Closed lexemes neither end inside of a table behind its keyword nor inside of an operator. -/
theorem ends_of_isClosed
    {lexeme : Lexeme}
    {rest : List Lexeme}
    (closed : isClosed (lexeme :: rest) = true) :
    endsInTable (lexeme :: rest) = false ∧ endsInOperator (lexeme :: rest) = false := by
  rw [isClosed] at closed
  simp only [Bool.and_eq_true, Bool.not_eq_true'] at closed
  exact closed.1

/-- The end of closed lexemes is closed. -/
theorem isClosed_of_suffix
    {lexemes rest : List Lexeme}
    (closed : isClosed lexemes = true)
    (suffix : rest <:+ lexemes) : isClosed rest = true := by
  induction lexemes with
  | nil => rwa [List.suffix_nil.mp suffix]
  | cons lexeme others inductionHypothesis =>
      rcases List.suffix_cons_iff.mp suffix with rfl | later
      · exact closed
      · rw [isClosed, Bool.and_eq_true] at closed
        exact inductionHypothesis closed.2 later

/-- The lexemes `later` are left too. -/
def leaving
    (later : List Lexeme)
    (result : Except Failure (α × List Lexeme)) : Except Failure (α × List Lexeme) :=
  result.map fun found => (found.1, found.2 ++ later)

@[simp] theorem leaving_ok
    (later rest : List Lexeme)
    (value : α) : leaving later (.ok (value, rest)) = .ok (value, rest ++ later) :=
  rfl

@[simp] theorem leaving_error
    (later : List Lexeme)
    (failure : Failure) : leaving later (.error failure : Except Failure (α × List Lexeme)) =
      .error failure :=
  rfl

theorem run_bind
    (reader : Reader α)
    (next : α → Reader β)
    (context : Context)
    (lexemes : List Lexeme) :
    (reader >>= next) context lexemes =
      match reader context lexemes with
      | .ok (value, rest) => next value context rest
      | .error failure => .error failure := by
  change ReaderT.bind reader next context lexemes = _
  simp only [ReaderT.bind, bind, StateT.bind, Except.bind]
  cases reader context lexemes <;> rfl

/-- Where one reader goes on after the other, the first has read a value. -/
theorem exists_of_run_bind
    {reader : Reader α}
    {next : α → Reader β}
    {context : Context}
    {lexemes rest : List Lexeme}
    {value : β}
    (read : (reader >>= next) context lexemes = .ok (value, rest)) :
    ∃ first middle,
      reader context lexemes = .ok (first, middle) ∧
        next first context middle = .ok (value, rest) := by
  rw [run_bind] at read
  split at read
  · next first middle found => exact ⟨first, middle, found, read⟩
  · exact nomatch read

/-- The reader leaves the end of what it is given. -/
class Shortens (reader : Reader α) : Prop where
  /-- What is left is an end. -/
  suffix
    {context : Context}
    {lexemes rest : List Lexeme}
    {value : α}
    (read : reader context lexemes = .ok (value, rest)) : rest <:+ lexemes

/-- The reader takes a semicolon behind at least one lexeme for the end. -/
class Goes (reader : Reader α) : Prop extends Shortens reader where
  /-- What follows the semicolon makes no difference and is left. -/
  goes
    (context : Context)
    {lexemes : List Lexeme}
    (spaced : Bool)
    (after : List Lexeme)
    (nonempty : lexemes ≠ [])
    (closed : isClosed lexemes = true) :
    reader context (lexemes ++ semicolon spaced :: after) =
      leaving (semicolon spaced :: after) (reader context lexemes)

/-- The reader takes a semicolon for the end. -/
class Stops (reader : Reader α) : Prop extends Goes reader where
  /-- A semicolon that comes next makes no difference and is left. -/
  halts
    (context : Context)
    (spaced : Bool)
    (after : List Lexeme) :
    reader context (semicolon spaced :: after) =
      leaving (semicolon spaced :: after) (reader context [])

/-- A reader that stops reads the same in front of a semicolon as in front of the end. -/
theorem Stops.stops
    (reader : Reader α)
    [stop : Stops reader]
    (context : Context)
    {lexemes : List Lexeme}
    (spaced : Bool)
    (after : List Lexeme)
    (closed : isClosed lexemes = true) :
    reader context (lexemes ++ semicolon spaced :: after) =
      leaving (semicolon spaced :: after) (reader context lexemes) := by
  cases lexemes with
  | nil => exact stop.halts context spaced after
  | cons lexeme rest => exact stop.goes context spaced after (List.cons_ne_nil _ _) closed

/-- The reader takes nothing. -/
class Leaves (reader : Reader α) : Prop where
  /-- All is left. -/
  leaves
    {context : Context}
    {lexemes rest : List Lexeme}
    {value : α}
    (read : reader context lexemes = .ok (value, rest)) : rest = lexemes

/-- The reader takes nothing and tells that something of its kind comes next. -/
class Sees (reader : Reader Bool) : Prop extends Leaves reader, Stops reader where
  /-- What it sees is there. -/
  nonempty
    {context : Context}
    {lexemes rest : List Lexeme}
    (seen : reader context lexemes = .ok (true, rest)) : lexemes ≠ []

section Sequence

instance Stops.pure
    (value : α) : Stops (pure value : Reader α) where
  suffix read := by
    cases read
    exact List.suffix_refl _
  goes _ _ _ _ _ _ := rfl
  halts _ _ _ := rfl

instance (priority := low) Shortens.of_leaves
    (reader : Reader α)
    [leaves : Leaves reader] : Shortens reader where
  suffix read := by
    cases leaves.leaves read
    exact List.suffix_refl _

instance Leaves.pure
    (value : α) : Leaves (pure value : Reader α) where
  leaves read := by
    cases read
    rfl

instance Stops.throw
    (failure : Failure) : Stops (throw failure : Reader α) where
  suffix read := nomatch read
  goes _ _ _ _ _ _ := rfl
  halts _ _ _ := rfl

instance Stops.unexpected : Stops (unexpected : Reader α) :=
  Stops.throw _

instance Leaves.bind
    (reader : Reader α)
    (next : α → Reader β)
    [leavesFirst : Leaves reader]
    [leavesThen : ∀ value, Leaves (next value)] : Leaves (reader >>= next) where
  leaves read := by
    obtain ⟨first, middle, found, later⟩ := exists_of_run_bind read
    exact ((leavesThen first).leaves later).trans (leavesFirst.leaves found)

/-- What stops goes on as before behind a reader that takes the semicolon for the end. -/
theorem bind_leaving
    {reader : Reader α}
    {next : α → Reader β}
    [shortens : Shortens reader]
    [∀ value, Stops (next value)]
    {context : Context}
    {lexemes : List Lexeme}
    {spaced : Bool}
    {after : List Lexeme}
    (closed : isClosed lexemes = true)
    (same : reader context (lexemes ++ semicolon spaced :: after) =
      leaving (semicolon spaced :: after) (reader context lexemes)) :
    (reader >>= next) context (lexemes ++ semicolon spaced :: after) =
      leaving (semicolon spaced :: after) ((reader >>= next) context lexemes) := by
  rw [run_bind, run_bind, same]
  rcases found : reader context lexemes with failure | ⟨value, rest⟩
  · rfl
  · exact Stops.stops (next value) context spaced after
      (isClosed_of_suffix closed (shortens.suffix found))

instance (priority := low) Shortens.bind
    (reader : Reader α)
    (next : α → Reader β)
    [shortensFirst : Shortens reader]
    [shortensThen : ∀ value, Shortens (next value)] : Shortens (reader >>= next) where
  suffix read := by
    obtain ⟨first, middle, found, later⟩ := exists_of_run_bind read
    exact ((shortensThen first).suffix later).trans (shortensFirst.suffix found)

/-- A reader that only goes may be followed by one that stops. -/
instance Goes.bind
    (reader : Reader α)
    (next : α → Reader β)
    [goesFirst : Goes reader]
    [stopsThen : ∀ value, Stops (next value)] : Goes (reader >>= next) where
  goes _ _ spaced after nonempty closed :=
    bind_leaving closed (goesFirst.goes _ spaced after nonempty closed)

/-- Behind a reader that takes nothing, one that goes is enough. -/
instance Goes.bind_of_leaves
    (reader : Reader α)
    (next : α → Reader β)
    [leavesFirst : Leaves reader]
    [goesFirst : Goes reader]
    [goesThen : ∀ value, Goes (next value)] : Goes (reader >>= next) where
  goes context lexemes spaced after nonempty closed := by
    rw [run_bind, run_bind, goesFirst.goes context spaced after nonempty closed]
    rcases found : reader context lexemes with failure | ⟨value, rest⟩
    · rfl
    · obtain rfl := leavesFirst.leaves found
      exact (goesThen value).goes context spaced after nonempty closed

instance Stops.bind
    (reader : Reader α)
    (next : α → Reader β)
    [stopsFirst : Stops reader]
    [stopsThen : ∀ value, Stops (next value)] : Stops (reader >>= next) where
  halts context spaced after := by
    rw [run_bind, run_bind, stopsFirst.halts context spaced after]
    rcases found : reader context [] with failure | ⟨value, rest⟩
    · rfl
    · obtain rfl := List.suffix_nil.mp (stopsFirst.suffix found)
      exact (stopsThen value).halts context spaced after

/-- Where something is seen, a reader that goes is enough. -/
instance Stops.bind_of_sees
    (condition : Reader Bool)
    (first second : Reader α)
    [sees : Sees condition]
    [goesFirst : Goes first]
    [stopsSecond : Stops second] :
    Stops (condition >>= fun seen => if seen = true then first else second) where
  toGoes :=
    have (seen : Bool) : Goes (if seen = true then first else second) := by
      split <;> infer_instance
    inferInstance
  halts context spaced after := by
    rw [run_bind, run_bind, sees.halts context spaced after]
    rcases found : condition context [] with failure | ⟨seen, rest⟩
    · rfl
    · obtain rfl := List.suffix_nil.mp (sees.suffix found)
      cases seen with
      | true => exact absurd rfl (sees.nonempty found)
      | false => exact stopsSecond.halts context spaced after

instance Stops.ite
    (condition : Prop)
    [Decidable condition]
    (first second : Reader α)
    [Stops first]
    [Stops second] : Stops (if condition then first else second) := by
  split <;> infer_instance

instance Goes.ite
    (condition : Prop)
    [Decidable condition]
    (first second : Reader α)
    [Goes first]
    [Goes second] : Goes (if condition then first else second) := by
  split <;> infer_instance

/-- Where the lexeme comes next, the reader takes a semicolon for the end. -/
def GoesFrom (lexeme : Lexeme) (reader : Reader α) : Prop :=
  ∀ (context : Context) (rest : List Lexeme) (spaced : Bool) (after : List Lexeme),
    isClosed (lexeme :: rest) = true →
      reader context (lexeme :: rest ++ semicolon spaced :: after) =
        leaving (semicolon spaced :: after) (reader context (lexeme :: rest))

theorem Goes.goesFrom
    (reader : Reader α)
    [go : Goes reader]
    (lexeme : Lexeme) : GoesFrom lexeme reader :=
  fun context _ spaced after closed => go.goes context spaced after (List.cons_ne_nil _ _) closed

/-- What is read depends on the next lexeme, and the semicolon is treated as the end is. -/
theorem Stops.bind_peek_of_goesFrom
    {next : Option Lexeme → Reader α}
    (shortens : ∀ lexeme, Shortens (next (some lexeme)))
    (goesOn : ∀ lexeme, GoesFrom lexeme (next (some lexeme)))
    (ends : Stops (next none))
    (alike : ∀ context spaced after,
      next (some (semicolon spaced)) context (semicolon spaced :: after) =
        next none context (semicolon spaced :: after)) :
    Stops (peek >>= next) where
  suffix {context lexemes rest value} read := by
    cases lexemes with
    | nil => exact ends.suffix read
    | cons lexeme others => exact (shortens lexeme).suffix read
  goes context lexemes spaced after nonempty closed := by
    cases lexemes with
    | nil => exact absurd rfl nonempty
    | cons lexeme others => exact goesOn lexeme context others spaced after closed
  halts context spaced after :=
    (alike context spaced after).trans (ends.halts context spaced after)

/-- What is read depends on the next lexeme, behind which the reader goes, and the semicolon is
treated as the end is. -/
theorem Stops.bind_peek
    {next : Option Lexeme → Reader α}
    (goesOn : ∀ lexeme, Goes (next (some lexeme)))
    (ends : Stops (next none))
    (alike : ∀ context spaced after,
      next (some (semicolon spaced)) context (semicolon spaced :: after) =
        next none context (semicolon spaced :: after)) :
    Stops (peek >>= next) :=
  Stops.bind_peek_of_goesFrom (fun lexeme => (goesOn lexeme).toShortens)
    (fun lexeme => Goes.goesFrom _ lexeme) ends alike

/-- What is read depends on the lexeme that is taken, and the semicolon does not fit. -/
theorem Stops.bind_next
    {next : Lexeme → Reader α}
    (goesOn : ∀ lexeme, Stops (next lexeme))
    (unfit : ∀ context spaced after,
      next (semicolon spaced) context after = .error .unexpected) :
    Stops (Grammar.next >>= next) where
  suffix {context lexemes rest value} read := by
    cases lexemes with
    | nil => exact nomatch read
    | cons lexeme others => exact ((goesOn lexeme).suffix read).trans (List.suffix_cons _ _)
  goes context lexemes spaced after nonempty closed := by
    cases lexemes with
    | nil => exact absurd rfl nonempty
    | cons lexeme others =>
        exact Stops.stops (next lexeme) context spaced after
          (isClosed_of_suffix closed (List.suffix_cons _ _))
  halts context spaced after := unfit context spaced after

theorem Stops.followedBy
    {reader : Reader α}
    {next : α → Reader β}
    [Stops reader]
    (stopsThen : ∀ value, Stops (next value)) : Stops (reader >>= next) :=
  inferInstance

theorem Goes.followedBy
    {reader : Reader α}
    {next : α → Reader β}
    [Goes reader]
    (stopsThen : ∀ value, Stops (next value)) : Goes (reader >>= next) :=
  inferInstance

theorem Goes.followedLeaving
    {reader : Reader α}
    {next : α → Reader β}
    [Leaves reader]
    [Goes reader]
    (goesThen : ∀ value, Goes (next value)) : Goes (reader >>= next) :=
  inferInstance

/-- The reader always gives something. -/
class Gives (reader : Reader (Option α)) : Prop where
  /-- It does not give nothing. -/
  ne_none
    {context : Context}
    {lexemes rest : List Lexeme} : reader context lexemes ≠ .ok (none, rest)

instance (value : α) : Gives (pure (some value)) where
  ne_none := nofun

instance (reader : Reader α) (next : α → Reader (Option β)) [give : ∀ value, Gives (next value)] :
    Gives (reader >>= next) where
  ne_none read := by
    obtain ⟨first, middle, found, later⟩ := exists_of_run_bind read
    exact (give first).ne_none later

/-- A reader that goes may follow one that gives nothing and takes nothing. -/
theorem Goes.bind_option
    {reader : Reader (Option α)}
    {next : Option α → Reader β}
    [goesFirst : Goes reader]
    (leavesNone : ∀ {context lexemes rest},
      reader context lexemes = .ok (none, rest) → rest = lexemes)
    (goesNone : Goes (next none))
    (stopsSome : ∀ value, Stops (next (some value))) : Goes (reader >>= next) where
  suffix read := by
    obtain ⟨_ | first, middle, found, later⟩ := exists_of_run_bind read
    · exact (goesNone.suffix later).trans (goesFirst.suffix found)
    · exact ((stopsSome first).suffix later).trans (goesFirst.suffix found)
  goes context lexemes spaced after nonempty closed := by
    rw [run_bind, run_bind, goesFirst.goes context spaced after nonempty closed]
    rcases found : reader context lexemes with failure | ⟨_ | value, rest⟩
    · rfl
    · obtain rfl := leavesNone found
      exact goesNone.goes context spaced after nonempty closed
    · exact Stops.stops (next (some value)) context spaced after
        (isClosed_of_suffix closed (goesFirst.suffix found))

/-- What is read depends on the keyword that comes next, and nothing is read without one. -/
theorem Stops.bind_nextKeyword
    {next : String → Reader α}
    (goesOn : ∀ keyword, Goes (next keyword))
    (ends : Stops (next "")) : Stops (nextKeyword >>= next) where
  suffix {context lexemes rest value} read := by
    cases lexemes with
    | nil => exact ends.suffix read
    | cons lexeme others => exact (goesOn lexeme.keyword).suffix read
  goes context lexemes spaced after nonempty closed := by
    cases lexemes with
    | nil => exact absurd rfl nonempty
    | cons lexeme others => exact (goesOn lexeme.keyword).goes context spaced after nonempty closed
  halts context spaced after := ends.halts context spaced after

end Sequence

section Progress

/-- Any value. -/
def always (_ : α) : Bool := true

/-- From at least one lexeme, the reader takes one where its value is one of those given. -/
class Moves (given : α → Bool) (reader : Reader α) : Prop where
  /-- Less is left. -/
  moves
    {context : Context}
    {lexemes rest : List Lexeme}
    {value : α}
    (nonempty : lexemes ≠ [])
    (read : reader context lexemes = .ok (value, rest))
    (isGiven : given value = true) : rest.length < lexemes.length

/-- The reader takes a lexeme where its value is one of those given. -/
class Takes (given : α → Bool) (reader : Reader α) : Prop extends Moves given reader where
  /-- At the end its value is another one. -/
  nothing
    {context : Context}
    {rest : List Lexeme}
    {value : α}
    (read : reader context [] = .ok (value, rest)) : given value = false

/-- Less is left where the value is one of those given. -/
theorem Takes.takes
    {given : α → Bool}
    {reader : Reader α}
    [take : Takes given reader]
    {context : Context}
    {lexemes rest : List Lexeme}
    {value : α}
    (read : reader context lexemes = .ok (value, rest))
    (isGiven : given value = true) : rest.length < lexemes.length := by
  cases lexemes with
  | nil =>
      rw [take.nothing read] at isGiven
      exact nomatch isGiven
  | cons lexeme others => exact take.moves (List.cons_ne_nil _ _) read isGiven

instance Takes.of_always
    (given : α → Bool)
    (reader : Reader α)
    [take : Takes always reader] : Takes given reader where
  moves _ read _ := take.takes read rfl
  nothing read := nomatch take.nothing read

instance Takes.unexpected
    (given : α → Bool) : Takes given unexpected where
  moves _ read _ := nomatch read
  nothing read := nomatch read

instance Takes.pure_none : Takes Option.isSome (pure none : Reader (Option α)) where
  moves _ read isGiven := by
    cases read
    exact nomatch isGiven
  nothing read := by
    cases read
    rfl

instance Takes.pure_false : Takes id (pure false : Reader Bool) where
  moves _ read isGiven := by
    cases read
    exact nomatch isGiven
  nothing read := by
    cases read
    rfl

/-- The first of two readers takes a lexeme. -/
instance Takes.bind_first
    (given : β → Bool)
    (reader : Reader α)
    (next : α → Reader β)
    [take : Takes always reader]
    [shortens : ∀ value, Shortens (next value)] : Takes given (reader >>= next) where
  moves _ read _ := by
    obtain ⟨first, middle, found, later⟩ := exists_of_run_bind read
    exact Nat.lt_of_le_of_lt ((shortens first).suffix later).length_le (take.takes found rfl)
  nothing read := by
    obtain ⟨first, middle, found, later⟩ := exists_of_run_bind read
    exact nomatch take.nothing found

/-- The second of two readers takes a lexeme. -/
instance Takes.bind_second
    (given : β → Bool)
    (reader : Reader α)
    (next : α → Reader β)
    [shortens : Shortens reader]
    [take : ∀ value, Takes given (next value)] : Takes given (reader >>= next) where
  moves _ read isGiven := by
    obtain ⟨first, middle, found, later⟩ := exists_of_run_bind read
    exact Nat.lt_of_lt_of_le ((take first).takes later isGiven) (shortens.suffix found).length_le
  nothing read := by
    obtain ⟨first, middle, found, later⟩ := exists_of_run_bind read
    obtain rfl := List.suffix_nil.mp (shortens.suffix found)
    exact (take first).nothing later

/-- The first of two readers takes a lexeme, if there is one. -/
instance Moves.bind_first
    (given : β → Bool)
    (reader : Reader α)
    (next : α → Reader β)
    [move : Moves always reader]
    [shortens : ∀ value, Shortens (next value)] : Moves given (reader >>= next) where
  moves nonempty read _ := by
    obtain ⟨first, middle, found, later⟩ := exists_of_run_bind read
    exact Nat.lt_of_le_of_lt ((shortens first).suffix later).length_le
      (move.moves nonempty found rfl)

/-- The first of two readers takes nothing, the second a lexeme, if there is one. -/
instance Moves.bind_of_leaves
    (given : β → Bool)
    (reader : Reader α)
    (next : α → Reader β)
    [leaves : Leaves reader]
    [move : ∀ value, Moves given (next value)] : Moves given (reader >>= next) where
  moves nonempty read isGiven := by
    obtain ⟨first, middle, found, later⟩ := exists_of_run_bind read
    obtain rfl := leaves.leaves found
    exact (move first).moves nonempty later isGiven

/-- A condition takes a lexeme where it is true. -/
theorem Takes.bind_bool
    {given : α → Bool}
    {condition : Reader Bool}
    {next : Bool → Reader α}
    [shortens : Shortens condition]
    [take : Takes id condition]
    (shortensTrue : Shortens (next true))
    (takeFalse : Takes given (next false)) : Takes given (condition >>= next) where
  moves nonempty read isGiven := by
    obtain ⟨holds, middle, found, later⟩ := exists_of_run_bind read
    cases holds with
    | true =>
        exact Nat.lt_of_le_of_lt (shortensTrue.suffix later).length_le (take.takes found rfl)
    | false =>
        exact Nat.lt_of_lt_of_le (takeFalse.takes later isGiven) (shortens.suffix found).length_le
  nothing read := by
    obtain ⟨holds, middle, found, later⟩ := exists_of_run_bind read
    obtain rfl := List.suffix_nil.mp (shortens.suffix found)
    obtain rfl : holds = false := take.nothing found
    exact takeFalse.nothing later

instance Takes.bind_if
    (given : α → Bool)
    (condition : Reader Bool)
    (first second : Reader α)
    [Shortens condition]
    [Takes id condition]
    [shortensFirst : Shortens first]
    [takeSecond : Takes given second] :
    Takes given (condition >>= fun holds => if holds = true then first else second) :=
  Takes.bind_bool shortensFirst takeSecond

/-- A condition takes a lexeme where it is true, and the second reader where it is false. -/
instance Takes.bind_unless
    (given : α → Bool)
    (condition : Reader Bool)
    (first second : Reader α)
    [Shortens condition]
    [Takes id condition]
    [shortensFirst : Shortens first]
    [takeSecond : Takes given second] :
    Takes given (condition >>= fun holds => if (!holds) = true then second else first) :=
  Takes.bind_bool shortensFirst takeSecond

/-- Where something is seen, it is there to be taken. -/
instance Takes.bind_of_sees
    (given : α → Bool)
    (condition : Reader Bool)
    (first second : Reader α)
    [sees : Sees condition]
    [moveFirst : Moves given first]
    [takeSecond : Takes given second] :
    Takes given (condition >>= fun seen => if seen = true then first else second) where
  moves nonempty read isGiven := by
    obtain ⟨seen, middle, found, later⟩ := exists_of_run_bind read
    obtain rfl := sees.leaves found
    cases seen with
    | true => exact moveFirst.moves nonempty later isGiven
    | false => exact takeSecond.moves nonempty later isGiven
  nothing read := by
    obtain ⟨seen, middle, found, later⟩ := exists_of_run_bind read
    obtain rfl := sees.leaves found
    cases seen with
    | true => exact absurd rfl (sees.nonempty found)
    | false => exact takeSecond.nothing later

instance Takes.ite
    (given : α → Bool)
    (condition : Prop)
    [Decidable condition]
    (first second : Reader α)
    [Takes given first]
    [Takes given second] : Takes given (if condition then first else second) := by
  split <;> infer_instance

instance Moves.ite
    (given : α → Bool)
    (condition : Prop)
    [Decidable condition]
    (first second : Reader α)
    [Moves given first]
    [Moves given second] : Moves given (if condition then first else second) := by
  split <;> infer_instance

theorem Takes.followedBy
    {given : β → Bool}
    {reader : Reader α}
    {next : α → Reader β}
    [Takes always reader]
    (shortens : ∀ value, Shortens (next value)) : Takes given (reader >>= next) :=
  inferInstance

/-- The first of two readers takes a lexeme where it gives something, and so does the second where
nothing is given. -/
theorem Takes.bind_option
    {given : β → Bool}
    {reader : Reader (Option α)}
    {next : Option α → Reader β}
    [shortens : Shortens reader]
    [take : Takes Option.isSome reader]
    (shortensSome : ∀ value, Shortens (next (some value)))
    (takeNone : Takes given (next none)) : Takes given (reader >>= next) where
  moves nonempty read isGiven := by
    obtain ⟨_ | first, middle, found, later⟩ := exists_of_run_bind read
    · exact Nat.lt_of_lt_of_le (takeNone.takes later isGiven) (shortens.suffix found).length_le
    · exact Nat.lt_of_le_of_lt ((shortensSome first).suffix later).length_le (take.takes found rfl)
  nothing read := by
    obtain ⟨_ | first, middle, found, later⟩ := exists_of_run_bind read
    · obtain rfl := List.suffix_nil.mp (shortens.suffix found)
      exact takeNone.nothing later
    · exact nomatch take.nothing found

theorem Moves.followedLeaving
    {given : β → Bool}
    {reader : Reader α}
    {next : α → Reader β}
    [Leaves reader]
    (move : ∀ value, Moves given (next value)) : Moves given (reader >>= next) :=
  inferInstance

/-- The next lexeme is there to be taken, and nothing is given at the end. -/
theorem Takes.bind_peek
    {given : α → Bool}
    {next : Option Lexeme → Reader α}
    (goesOn : ∀ lexeme, Moves given (next (some lexeme)))
    (ends : Takes given (next none)) : Takes given (peek >>= next) where
  moves {context lexemes rest value} nonempty read isGiven := by
    cases lexemes with
    | nil => exact absurd rfl nonempty
    | cons lexeme others => exact (goesOn lexeme).moves nonempty read isGiven
  nothing read := ends.nothing read

/-- The next lexeme is there to be taken, and nothing is given without a keyword. -/
theorem Takes.bind_nextKeyword
    {given : α → Bool}
    {next : String → Reader α}
    (goesOn : ∀ keyword, Moves given (next keyword))
    (ends : Takes given (next "")) : Takes given (nextKeyword >>= next) where
  moves {context lexemes rest value} nonempty read isGiven := by
    cases lexemes with
    | nil => exact absurd rfl nonempty
    | cons lexeme others => exact (goesOn lexeme.keyword).moves nonempty read isGiven
  nothing read := ends.nothing read

end Progress

section Agreement

/-- The readers read the same from at most `bound` lexemes. -/
class Agrees (bound : Nat) (reader other : Reader α) : Prop where
  /-- They give the same. -/
  agrees
    (context : Context)
    {lexemes : List Lexeme}
    (short : lexemes.length ≤ bound) : reader context lexemes = other context lexemes

instance Agrees.refl
    (bound : Nat)
    (reader : Reader α) : Agrees bound reader reader where
  agrees _ _ _ := rfl

instance Agrees.bind
    (bound : Nat)
    (reader other : Reader α)
    (next nextOther : α → Reader β)
    [shortens : Shortens reader]
    [agree : Agrees bound reader other]
    [agreeThen : ∀ value, Agrees bound (next value) (nextOther value)] :
    Agrees bound (reader >>= next) (other >>= nextOther) where
  agrees context lexemes short := by
    rw [run_bind, run_bind, ← agree.agrees context short]
    rcases found : reader context lexemes with failure | ⟨value, rest⟩
    · rfl
    · exact (agreeThen value).agrees context (Nat.le_trans (shortens.suffix found).length_le short)

theorem Agrees.followedBy
    {bound : Nat}
    {reader other : Reader α}
    {next nextOther : α → Reader β}
    [Shortens reader]
    [Agrees bound reader other]
    (agreeThen : ∀ value, Agrees bound (next value) (nextOther value)) :
    Agrees bound (reader >>= next) (other >>= nextOther) :=
  inferInstance

/-- Behind a lexeme that is taken there is less. -/
instance Agrees.bind_of_moves
    (bound : Nat)
    (reader : Reader α)
    (next nextOther : α → Reader β)
    [shortens : Shortens reader]
    [move : Moves always reader]
    [agreeThen : ∀ value, Agrees bound (next value) (nextOther value)] :
    Agrees (bound + 1) (reader >>= next) (reader >>= nextOther) where
  agrees context lexemes short := by
    rw [run_bind, run_bind]
    rcases found : reader context lexemes with failure | ⟨value, rest⟩
    · rfl
    · refine (agreeThen value).agrees context ?_
      cases lexemes with
      | nil =>
          rw [List.suffix_nil.mp (shortens.suffix found)]
          exact Nat.zero_le _
      | cons lexeme others =>
          have less := move.moves (List.cons_ne_nil _ _) found rfl
          omega

instance Agrees.bind_if
    (bound : Nat)
    (condition : Reader Bool)
    (first firstOther second secondOther : Reader α)
    [shortens : Shortens condition]
    [take : Takes id condition]
    [agreeFirst : Agrees bound first firstOther]
    [agreeSecond : Agrees (bound + 1) second secondOther] :
    Agrees (bound + 1) (condition >>= fun holds => if holds = true then first else second)
      (condition >>= fun holds => if holds = true then firstOther else secondOther) where
  agrees context lexemes short := by
    rw [run_bind, run_bind]
    rcases found : condition context lexemes with failure | ⟨_ | _, rest⟩
    · rfl
    · exact agreeSecond.agrees context (Nat.le_trans (shortens.suffix found).length_le short)
    · have less := take.takes found rfl
      exact agreeFirst.agrees context (by omega)

/-- At the end a condition that takes a lexeme does not hold. -/
instance Agrees.bind_if_zero
    (condition : Reader Bool)
    (first firstOther second secondOther : Reader α)
    [shortens : Shortens condition]
    [take : Takes id condition]
    [agreeSecond : Agrees 0 second secondOther] :
    Agrees 0 (condition >>= fun holds => if holds = true then first else second)
      (condition >>= fun holds => if holds = true then firstOther else secondOther) where
  agrees context lexemes short := by
    rw [run_bind, run_bind]
    rcases found : condition context lexemes with failure | ⟨_ | _, rest⟩
    · rfl
    · exact agreeSecond.agrees context (Nat.le_trans (shortens.suffix found).length_le short)
    · have less := take.takes found rfl
      omega

instance Agrees.ite
    (bound : Nat)
    (condition : Prop)
    [Decidable condition]
    (first firstOther second secondOther : Reader α)
    [Agrees bound first firstOther]
    [Agrees bound second secondOther] :
    Agrees bound (if condition then first else second)
      (if condition then firstOther else secondOther) := by
  split <;> infer_instance

theorem Agrees.mono
    {bound larger : Nat}
    {reader other : Reader α}
    (agree : Agrees larger reader other)
    (le : bound ≤ larger) : Agrees bound reader other where
  agrees context _ short := agree.agrees context (Nat.le_trans short le)

theorem Agrees.of_nil
    {reader other : Reader α}
    (result : Except Failure (α × List Lexeme))
    (ends : ∀ context, reader context [] = result)
    (endsOther : ∀ context, other context [] = result) : Agrees 0 reader other where
  agrees context lexemes short := by
    rw [List.eq_nil_of_length_eq_zero (Nat.le_zero.mp short), ends, endsOther]

/-- Readers with a bound that is lowered behind each lexeme agree where neither bound is reached. -/
theorem Agrees.of_step
    (family : Nat → β → Reader α)
    (least : Nat)
    (ends : ∀ limit other value,
      Agrees 0 (family (limit + least) value) (family (other + least) value))
    (step : ∀ bound limit other,
      (∀ value, Agrees bound (family limit value) (family other value)) →
        ∀ value, Agrees (bound + 1) (family (limit + 1) value) (family (other + 1) value))
    {bound limit other : Nat}
    (le : bound + least ≤ limit)
    (leOther : bound + least ≤ other)
    (value : β) : Agrees bound (family limit value) (family other value) := by
  induction bound generalizing limit other value with
  | zero =>
      obtain ⟨limit, rfl⟩ := Nat.exists_eq_add_of_le' le
      obtain ⟨other, rfl⟩ := Nat.exists_eq_add_of_le' leOther
      rw [Nat.zero_add]
      exact ends limit other value
  | succ bound inductionHypothesis =>
      rw [Nat.succ_add] at le leOther
      obtain ⟨limit, rfl⟩ := Nat.exists_eq_succ_of_ne_zero (Nat.ne_zero_of_lt le)
      obtain ⟨other, rfl⟩ := Nat.exists_eq_succ_of_ne_zero (Nat.ne_zero_of_lt leOther)
      exact step bound limit other
        (inductionHypothesis (Nat.le_of_succ_le_succ le) (Nat.le_of_succ_le_succ leOther)) value

end Agreement

section Fuel

instance : Shortens remaining where
  suffix read := by
    cases read
    exact List.suffix_refl _

/-- How many lexemes are left bounds a recursion, and any larger bound does as well. -/
theorem Stops.bind_remaining
    {family : Nat → Reader α}
    (stops : ∀ limit, Stops (family limit))
    (enough : ∀ bound limit other, bound ≤ limit → bound ≤ other →
      Agrees bound (family limit) (family other)) :
    Stops (remaining >>= family) where
  suffix {context lexemes rest value} read := (stops lexemes.length).suffix read
  goes context lexemes spaced after nonempty closed := by
    change family (lexemes ++ semicolon spaced :: after).length context
        (lexemes ++ semicolon spaced :: after) =
      leaving (semicolon spaced :: after) (family lexemes.length context lexemes)
    rw [Stops.stops (family _) context spaced after closed]
    have longer : lexemes.length ≤ (lexemes ++ semicolon spaced :: after).length := by
      rw [List.length_append]
      exact Nat.le_add_right _ _
    exact congrArg _ ((enough _ _ _ longer (Nat.le_refl _)).agrees context (Nat.le_refl _))
  halts context spaced after := by
    change family (after.length + 1) context (semicolon spaced :: after) =
      leaving (semicolon spaced :: after) (family 0 context [])
    rw [(stops _).halts context spaced after]
    exact congrArg _ ((enough 0 _ _ (Nat.zero_le _) (Nat.le_refl _)).agrees context (Nat.le_refl _))

instance Stops.repeatSome
    (reader : Reader (Option α))
    [Stops reader]
    (limit : Nat) : Stops (repeatSome reader limit) := by
  induction limit with
  | zero => exact Stops.pure _
  | succ limit inductionHypothesis =>
      unfold Grammar.repeatSome
      have (found : Option α) : Stops (match found with
          | none => return []
          | some value => return value :: (← Grammar.repeatSome reader limit)) := by
        split <;> infer_instance
      infer_instance

/-- A reader that takes a lexeme each time is repeated less often than there are lexemes. -/
theorem agrees_repeatSome
    (reader : Reader (Option α))
    [take : Takes Option.isSome reader]
    {bound limit other : Nat}
    (below : bound < limit)
    (belowOther : bound < other) : Agrees bound (repeatSome reader limit) (repeatSome reader other) := by
  induction limit generalizing bound other with
  | zero => exact absurd below (Nat.not_lt_zero _)
  | succ limit inductionHypothesis =>
      obtain _ | other := other
      · exact absurd belowOther (Nat.not_lt_zero _)
      · refine ⟨fun context lexemes short => ?_⟩
        rw [repeatSome, repeatSome, run_bind, run_bind]
        rcases found : reader context lexemes with failure | ⟨_ | value, rest⟩
        · rfl
        · rfl
        · have less := take.takes found rfl
          have agree : Agrees rest.length (repeatSome reader limit) (repeatSome reader other) :=
            inductionHypothesis (by omega) (by omega)
          simp only [run_bind, agree.agrees context (Nat.le_refl _)]

instance (priority := low) Shortens.many
    (reader : Reader (Option α))
    [shortens : Shortens reader] : Shortens (many reader) := by
  have repeated (limit : Nat) : Shortens (repeatSome reader limit) := by
    induction limit with
    | zero => exact (Stops.pure _).toShortens
    | succ limit inductionHypothesis =>
        refine @Shortens.bind _ _ _ _ shortens fun found => ?_
        split <;> infer_instance
  exact ⟨fun {context lexemes rest value} read => (repeated (lexemes.length + 1)).suffix read⟩

instance Stops.many
    (reader : Reader (Option α))
    [Stops reader]
    [Takes Option.isSome reader] : Stops (many reader) := by
  unfold Grammar.many
  exact Stops.bind_remaining (fun _ => inferInstance) fun _ _ _ le leOther =>
    agrees_repeatSome reader (Nat.lt_succ_of_le le) (Nat.lt_succ_of_le leOther)

instance Agrees.many
    (bound : Nat)
    (reader other : Reader (Option α))
    [shortens : Shortens reader]
    [agree : Agrees bound reader other] : Agrees bound (many reader) (many other) := by
  have repeated (limit : Nat) : Agrees bound (repeatSome reader limit) (repeatSome other limit) := by
    induction limit with
    | zero => exact Agrees.refl _ _
    | succ limit inductionHypothesis =>
        refine ⟨fun context lexemes short => ?_⟩
        rw [repeatSome, repeatSome, run_bind, run_bind, ← agree.agrees context short]
        rcases found : reader context lexemes with failure | ⟨_ | value, rest⟩
        · rfl
        · rfl
        · have shorter := Nat.le_trans (shortens.suffix found).length_le short
          simp only [run_bind, inductionHypothesis.agrees context shorter]
  exact ⟨fun context lexemes short => (repeated _).agrees context short⟩

end Fuel

end Grammar
end Sql
end TableReach
