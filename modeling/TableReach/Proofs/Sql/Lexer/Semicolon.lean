import TableReach.Proofs.Sql.Lexer.OneLine

/-!
# Tokens in front of a semicolon

No token reaches beyond a semicolon that stands outside of quotes.  So the tokens of a
text are the same where a semicolon and more are added behind it.  A few signs that end
a text are the exception: they take the character behind them along.
-/

namespace TableReach
namespace Sql
namespace Lexer

open Text

/-- The token takes the character behind it along, whatever it is. -/
def takesAlong (dialect : Dialect) : Token → Bool
  | .symbol text =>
      text == "&>" || (text == "@" || text == "@@") && dialect.startsName '@' ||
        text == "#" && dialect.startsName '#'
  | _ => false

/-- Whatever the first scan finds, the second one finds too, and it leaves a semicolon and more
behind what is left.  Nothing is said about a token that takes the semicolon along. -/
def Extends
    (dialect : Dialect)
    (after : List Char)
    (scan other : Scan) : Prop :=
  ∀ token behind, scan = some (token, behind) →
    (behind = [] → takesAlong dialect token = false) →
      other = some (token, behind ++ ';' :: after)

variable
  {dialect : Dialect}
  {after : List Char}

theorem Extends.of_some
    {token : Token}
    (behind : List Char) :
    Extends dialect after (some (token, behind)) (some (token, behind ++ ';' :: after)) := by
  rintro _ _ ⟨⟩ _
  rfl

theorem Extends.of_none
    {other : Scan} : Extends dialect after none other :=
  fun _ _ found => nomatch found

/-- Two scans that branch on the same condition. -/
theorem Extends.ite
    {condition : Prop}
    [Decidable condition]
    {yes no otherYes otherNo : Scan}
    (whenTrue : condition → Extends dialect after yes otherYes)
    (whenFalse : ¬ condition → Extends dialect after no otherNo) :
    Extends dialect after (if condition then yes else no)
      (if condition then otherYes else otherNo) := by
  by_cases holds : condition
  · rw [if_pos holds, if_pos holds]
    exact whenTrue holds
  · rw [if_neg holds, if_neg holds]
    exact whenFalse holds

section Texts

variable {property : Char → Bool}

theorem takeWhile_semicolon
    (fails : property ';' = false)
    (text : List Char) : (text ++ ';' :: after).takeWhile property = text.takeWhile property := by
  induction text with
  | nil => simp [fails]
  | cons character rest inductionHypothesis =>
      rw [List.cons_append, List.takeWhile_cons, List.takeWhile_cons, inductionHypothesis]

/-- What stands behind a run of characters among which there is no semicolon. -/
theorem dropWhile_semicolon
    (fails : property ';' = false)
    (text : List Char) :
    (text ++ ';' :: after).dropWhile property = text.dropWhile property ++ ';' :: after := by
  induction text with
  | nil => simp [fails]
  | cons character rest inductionHypothesis =>
      rw [List.cons_append, List.dropWhile_cons, List.dropWhile_cons, inductionHypothesis]
      split <;> rfl

/-- What stands first, as far as a property is concerned that the semicolon does not have. -/
theorem head?_map_semicolon
    (fails : property ';' = false)
    (text : List Char) :
    ((text ++ ';' :: after).head?.map property).getD false =
      (text.head?.map property).getD false := by
  cases text with
  | nil => exact fails
  | cons character rest => rfl

theorem head?_semicolon_iff
    {mark : Char}
    (other : mark ≠ ';')
    (text : List Char) :
    (text ++ ';' :: after).head? = some mark ↔ text.head? = some mark := by
  cases text with
  | nil => exact ⟨fun first => absurd (Option.some_inj.mp first).symm other, nofun⟩
  | cons character rest => exact Iff.rfl

theorem head?_beq_semicolon
    {mark : Char}
    (other : mark ≠ ';')
    (text : List Char) :
    ((text ++ ';' :: after).head? == some mark) = (text.head? == some mark) := by
  rw [Bool.eq_iff_iff, beq_iff_eq, beq_iff_eq]
  exact head?_semicolon_iff other text

/-- Two marks without a semicolon do not stand first because of one. -/
theorem append_semicolon_ne
    {first second : Char}
    {text : List Char}
    (other : first ≠ ';')
    (otherSecond : second ≠ ';')
    (absent : ∀ rest, text ≠ first :: second :: rest)
    (rest : List Char) : text ++ ';' :: after ≠ first :: second :: rest := by
  intro equal
  rcases text with _ | ⟨character, others⟩
  · exact other (List.cons.inj equal).1.symm
  · obtain ⟨rfl, behind⟩ := List.cons.inj equal
    have stands : (others ++ ';' :: after).head? = some second := congrArg List.head? behind
    obtain ⟨others, rfl⟩ := List.head?_eq_some_iff.mp
      ((head?_semicolon_iff otherSecond others).mp stands)
    exact absent others rfl

theorem drop_one_semicolon
    {text : List Char}
    (something : text ≠ []) : (text ++ ';' :: after).drop 1 = text.drop 1 ++ ';' :: after := by
  obtain ⟨character, rest, rfl⟩ := List.exists_cons_of_ne_nil something
  rfl

end Texts

section Unquoted

theorem continuesName_semicolon (dialect : Dialect) : dialect.continuesName ';' = false := by
  cases dialect <;> decide

theorem extends_scanWord
    (start rest : List Char) :
    Extends dialect after (scanWord dialect start rest)
      (scanWord dialect start (rest ++ ';' :: after)) := by
  rw [scanWord, scanWord, takeWhile_semicolon (continuesName_semicolon dialect),
    dropWhile_semicolon (continuesName_semicolon dialect)]
  exact Extends.of_some _

/-- Runs of digits. -/
theorem digitRun_semicolon
    {isDigit : Char → Bool}
    (fails : isDigit ';' = false)
    (underscores : Bool)
    (text : List Char) :
    digitRun isDigit underscores (text ++ ';' :: after) =
      ((digitRun isDigit underscores text).1,
        (digitRun isDigit underscores text).2 ++ ';' :: after) := by
  induction text with
  | nil => simp [digitRun, fails]
  | cons character rest inductionHypothesis =>
      rw [List.cons_append, digitRun, digitRun, head?_map_semicolon rfl, inductionHypothesis]
      split <;> rfl

/-- Exponents. -/
theorem exponent_semicolon
    (text : List Char) :
    exponent (text ++ ';' :: after) =
      match exponent text with
      | .present power behind => .present power (behind ++ ';' :: after)
      | found => found := by
  cases text with
  | nil => rfl
  | cons mark rest =>
      have sign : signOf (rest ++ ';' :: after) = signOf rest ∧
          (rest ++ ';' :: after).drop (signOf rest).length =
            rest.drop (signOf rest).length ++ ';' :: after := by
        cases rest with
        | nil => exact ⟨rfl, rfl⟩
        | cons first others =>
            by_cases isSign : (first == '+' || first == '-') = true
            · simp [signOf, isSign]
            · simp [signOf, isSign]
      rw [List.cons_append, exponent_cons, exponent_cons]
      dsimp only
      rw [sign.1, sign.2, head?_map_semicolon rfl, takeWhile_semicolon rfl, dropWhile_semicolon rfl]
      split
      · split <;> rfl
      · rfl

/-- A number and a mark of its length. -/
theorem extends_ofDigits
    (digits rest : List Char) :
    Extends dialect after (ofDigits digits rest) (ofDigits digits (rest ++ ';' :: after)) := by
  rw [ofDigits, ofDigits, head?_beq_semicolon (by decide)]
  cases rest with
  | nil => exact Extends.of_some []
  | cons first others =>
      split
      · exact Extends.of_some others
      · exact Extends.of_some (first :: others)

/-- Numbers behind their fraction. -/
theorem extends_scanPower
    (previous : Option Token)
    (digits rest : List Char) :
    Extends dialect after (scanPower dialect previous digits rest)
      (scanPower dialect previous digits (rest ++ ';' :: after)) := by
  unfold scanPower
  rw [exponent_semicolon]
  cases exponent rest with
  | absent =>
      dsimp only
      rw [drop_length_takeWhile, drop_length_takeWhile,
        takeWhile_semicolon (continuesName_semicolon dialect),
        dropWhile_semicolon (continuesName_semicolon dialect)]
      exact Extends.ite (fun _ => Extends.of_some _) fun _ => extends_ofDigits digits rest
  | letterOnly =>
      exact Extends.ite (fun _ => Extends.of_some rest) fun _ => extends_ofDigits digits rest
  | present power behind =>
      exact Extends.ite (fun _ => Extends.of_some behind) fun _ => extends_ofDigits _ behind

/-- Numbers. -/
theorem extends_scanNumber
    (previous : Option Token)
    (text : List Char) :
    Extends dialect after (scanNumber dialect previous text)
      (scanNumber dialect previous (text ++ ';' :: after)) := by
  by_cases ordinary : ∀ rest, text ≠ '.' :: '_' :: rest
  · have ordinaryExtended : ∀ rest, text ++ ';' :: after ≠ '.' :: '_' :: rest :=
      append_semicolon_ne (by decide) (by decide) ordinary
    rw [scanNumber_eq previous ordinary, scanNumber_eq previous ordinaryExtended]
    dsimp only
    generalize (dialect == Dialect.postgresql) = underscores
    rw [digitRun_semicolon rfl]
    generalize digitRun Char.isDigit underscores text = whole
    dsimp only
    rw [head?_beq_semicolon (by decide), head?_beq_semicolon (by decide)]
    refine Extends.ite (fun hexadecimal => ?_) (fun _ => ?_)
    · have something : whole.2 ≠ [] := by
        intro nothing
        simp [nothing] at hexadecimal
      rw [drop_one_semicolon something, digitRun_semicolon rfl]
      exact Extends.of_some _
    · have behindPoint :
          (if (whole.2.head? == some '.') = true then (whole.2 ++ ';' :: after).drop 1
            else whole.2 ++ ';' :: after) =
          (if (whole.2.head? == some '.') = true then whole.2.drop 1 else whole.2) ++
            ';' :: after := by
        split
        · next point => exact drop_one_semicolon (by rintro nothing; simp [nothing] at point)
        · rfl
      rw [behindPoint]
      generalize (if (whole.2.head? == some '.') = true then whole.2.drop 1 else whole.2) = left
      rw [digitRun_semicolon rfl]
      exact Extends.ite (fun _ => Extends.of_some left) fun _ =>
        Extends.ite (fun _ => Extends.of_some left) fun _ => extends_scanPower previous _ _
  · obtain ⟨rest, equal⟩ := Classical.not_forall.mp ordinary
    obtain rfl := Classical.not_not.mp equal
    simp only [scanNumber, List.cons_append]
    exact Extends.ite (fun _ => Extends.of_some ('_' :: rest)) fun _ => Extends.of_none

/-- A semicolon is a symbol of its own and stands in no other. -/
theorem notMem_of_symbol
    {entry : String × Ending}
    (present : entry ∈ symbols dialect) : entry.1.toList = [';'] ∨ ';' ∉ entry.1.toList := by
  have checked : ((symbols dialect).all fun entry =>
      entry.1.toList == [';'] || !entry.1.toList.contains ';') = true := by
    cases dialect <;> decide
  have known := List.all_eq_true.mp checked entry present
  simpa using known

/-- A mark without semicolons stands first with and without one. -/
theorem isPrefixOf_semicolon
    {mark : List Char}
    (absent : ';' ∉ mark)
    (text : List Char) : mark.isPrefixOf (text ++ ';' :: after) = mark.isPrefixOf text := by
  induction mark generalizing text with
  | nil => rw [List.isPrefixOf_nil_left, List.isPrefixOf_nil_left]
  | cons first mark inductionHypothesis =>
      rw [List.mem_cons, not_or] at absent
      cases text with
      | nil =>
          have other : (first == ';') = false := beq_eq_false_iff_ne.mpr (Ne.symm absent.1)
          rw [List.nil_append, List.isPrefixOf_cons_cons, other, Bool.false_and]
          rfl
      | cons character rest =>
          rw [List.cons_append, List.isPrefixOf_cons_cons, List.isPrefixOf_cons_cons,
            inductionHypothesis absent.2]

/-- The longest symbol that a text starts with. -/
theorem longestSymbol?_semicolon
    (first : Char)
    (rest : List Char) :
    longestSymbol? dialect (first :: (rest ++ ';' :: after)) =
      longestSymbol? dialect (first :: rest) := by
  have same (entry : String × Ending) (present : entry ∈ symbols dialect) :
      entry.1.toList.isPrefixOf (first :: (rest ++ ';' :: after)) =
        entry.1.toList.isPrefixOf (first :: rest) := by
    rcases notMem_of_symbol present with alone | absent
    · rw [alone, List.isPrefixOf_cons_cons, List.isPrefixOf_cons_cons, List.isPrefixOf_nil_left,
        List.isPrefixOf_nil_left]
    · exact isPrefixOf_semicolon absent (first :: rest)
  unfold longestSymbol?
  rw [List.filter_congr same]

theorem extendsOperator_semicolon (dialect : Dialect) : dialect.extendsOperator ';' = false := by
  cases dialect <;> rfl

/-- Operators and marks. -/
theorem extends_scanSymbol
    (first : Char)
    (rest : List Char) :
    Extends dialect after (scanSymbol dialect (first :: rest))
      (scanSymbol dialect (first :: (rest ++ ';' :: after))) := by
  unfold scanSymbol
  rw [longestSymbol?_semicolon]
  cases longest : longestSymbol? dialect (first :: rest) with
  | none => exact Extends.of_some rest
  | some entry =>
      obtain ⟨symbol, ending⟩ := entry
      have starts := (mem_of_longestSymbol? longest).2
      have bound : symbol.length ≤ (first :: rest).length := by
        have short := (List.isPrefixOf_iff_prefix.mp starts).length_le
        rwa [String.length_toList] at short
      have behind : (first :: (rest ++ ';' :: after)).drop symbol.length =
          (first :: rest).drop symbol.length ++ ';' :: after := by
        rw [← List.cons_append, List.drop_append_of_le_length bound]
      dsimp only
      rw [behind, drop_length_takeWhile, drop_length_takeWhile,
        takeWhile_semicolon (extendsOperator_semicolon dialect),
        dropWhile_semicolon (extendsOperator_semicolon dialect)]
      exact Extends.ite (fun _ => Extends.of_some _) fun _ =>
        Extends.ite (fun _ => Extends.of_some _) fun _ =>
          Extends.ite (fun _ => Extends.of_some _) fun _ => Extends.of_none

/-- Two signs in front of a name, or alone. -/
theorem extends_scanSign_double
    (rest : List Char) :
    Extends dialect after (scanSign dialect ('@' :: '@' :: rest))
      (scanSign dialect ('@' :: '@' :: (rest ++ ';' :: after))) := by
  cases rest with
  | nil =>
      have alone : scanSign dialect ['@', '@'] = Scan.ofSymbol "@@" [] := by
        cases dialect <;> rfl
      rw [alone]
      rintro _ _ ⟨⟩ kept
      have noName : dialect.startsName '@' = false := by simpa [takesAlong] using kept rfl
      rw [List.nil_append, scanSign, noName]
      rfl
  | cons next rest =>
      rw [List.cons_append, scanSign, scanSign]
      exact Extends.ite (fun _ => extends_scanWord _ rest) fun _ => Extends.of_some (next :: rest)

/-- One sign in front of a name, or an operator. -/
theorem extends_scanSigned
    {sign : Char}
    (stops : List Char)
    (isSign : sign = '@' ∨ sign = '#')
    (rest : List Char) :
    Extends dialect after (scanSigned dialect sign stops rest)
      (scanSigned dialect sign stops (rest ++ ';' :: after)) := by
  cases rest with
  | nil =>
      have alone : scanSymbol dialect [sign] = Scan.ofSymbol (String.ofList [sign]) [] := by
        rcases isSign with rfl | rfl <;> cases dialect <;> decide
      intro token behind found kept
      rw [scanSigned, alone] at found
      obtain ⟨rfl, rfl⟩ := Prod.mk.inj (Option.some_inj.mp found)
      have noName : dialect.startsName sign = false := by
        rcases isSign with rfl | rfl <;> simpa [takesAlong] using kept rfl
      rw [List.nil_append, scanSigned, noName]
      exact extends_scanSymbol sign [] _ _ alone kept
  | cons next rest =>
      rw [List.cons_append, scanSigned, scanSigned]
      exact Extends.ite (fun _ => extends_scanWord _ rest) fun _ =>
        extends_scanSymbol sign (next :: rest)

/-- Signs. -/
theorem extends_scanSign
    {sign : Char}
    (isSign : sign = '@' ∨ sign = '#')
    (rest : List Char) :
    Extends dialect after (scanSign dialect (sign :: rest))
      (scanSign dialect (sign :: (rest ++ ';' :: after))) := by
  rcases isSign with rfl | rfl
  · by_cases double : rest.head? = some '@'
    · obtain ⟨rest, rfl⟩ := List.head?_eq_some_iff.mp double
      exact extends_scanSign_double rest
    · have doubleExtended : (rest ++ ';' :: after).head? ≠ some '@' :=
        mt (head?_semicolon_iff (by decide) rest).mp double
      rw [scanSign_single double, scanSign_single doubleExtended]
      exact extends_scanSigned _ (Or.inl rfl) rest
  · rw [scanSign_hash, scanSign_hash]
    exact extends_scanSigned _ (Or.inr rfl) rest

/-- Operators that start with an ampersand. -/
theorem extends_scanAmpersand
    (rest : List Char) :
    Extends dialect after (scanAmpersand dialect rest)
      (scanAmpersand dialect (rest ++ ';' :: after)) := by
  have ordinary (text : List Char) (plain : dialect = .postgresql → text.head? ≠ some '>') :
      scanAmpersand dialect text = scanSymbol dialect ('&' :: text) := by
    unfold scanAmpersand
    split
    · exact absurd rfl (plain rfl)
    · rfl
  by_cases plain : dialect = .postgresql → rest.head? ≠ some '>'
  · have plainExtended : dialect = .postgresql → (rest ++ ';' :: after).head? ≠ some '>' :=
      fun isPostgres => mt (head?_semicolon_iff (by decide) rest).mp (plain isPostgres)
    rw [ordinary rest plain, ordinary _ plainExtended]
    exact extends_scanSymbol '&' rest
  · obtain ⟨rfl, isShape⟩ : dialect = .postgresql ∧ rest.head? = some '>' := by simpa using plain
    obtain ⟨rest, rfl⟩ := List.head?_eq_some_iff.mp isShape
    cases rest with
    | nil =>
        rintro _ _ ⟨⟩ kept
        exact nomatch kept rfl
    | cons character behind => exact Extends.of_some behind

end Unquoted

section Quoted

/-- A quoted text ends at its quote. -/
theorem Local.extends
    {α : Type}
    {stop : Char}
    {read : List Char → Option (α × List Char)}
    (isLocal : Local stop read)
    (other : stop ≠ ';')
    (token : α → Token)
    (rest : List Char) :
    Extends dialect after ((read rest).map fun parts => (token parts.1, parts.2))
      ((read (rest ++ ';' :: after)).map fun parts => (token parts.1, parts.2)) := by
  intro found behind foundEqual _
  obtain ⟨parts, readEqual, equal⟩ := Option.map_eq_some_iff.mp foundEqual
  obtain ⟨rfl, rfl⟩ := Prod.mk.inj equal
  obtain ⟨whole, rfl, elsewhere⟩ := isLocal rest parts.1 parts.2 readEqual
  rw [List.append_assoc, elsewhere _ (head?_semicolon_iff other parts.2).mp]
  rfl

/-- Strings between tags and places for parameters. -/
theorem extends_scanDollar
    (rest : List Char) :
    Extends dialect after (scanDollar dialect rest) (scanDollar dialect (rest ++ ';' :: after)) := by
  have fails : isTag dialect ';' = false := by
    cases dialect <;> decide
  have sameTag : (rest ++ ';' :: after).takeWhile (isTag dialect) =
      rest.takeWhile (isTag dialect) :=
    takeWhile_semicolon fails rest
  have behind : (rest ++ ';' :: after).dropWhile (isTag dialect) =
      rest.dropWhile (isTag dialect) ++ ';' :: after :=
    dropWhile_semicolon fails rest
  by_cases opens : (rest.dropWhile (isTag dialect)).head? = some '$'
  · obtain ⟨body, equal⟩ := List.head?_eq_some_iff.mp opens
    rw [equal] at behind
    rw [scanDollar_tagged equal, scanDollar_tagged behind, sameTag]
    exact Local.extends (localAt_splitAtMark? '$' (by simp)) (by decide)
      (fun _ => .literal .tagged "") body
  · have absent : ((rest ++ ';' :: after).dropWhile (isTag dialect)).head? ≠ some '$' := by
      rw [behind]
      exact mt (head?_semicolon_iff (by decide) _).mp opens
    rw [scanDollar_placeholder opens, scanDollar_placeholder absent, sameTag, behind]
    exact Extends.of_some _

/-- Strings behind a letter. -/
theorem ReadsQuoted.extends
    {α : Type}
    {letter quote : Char}
    {read : List Char → Option (α × List Char)}
    {token : α → Token}
    {scan otherwise : List Char → Scan}
    {rest : List Char}
    (reads : ReadsQuoted dialect letter quote read token scan otherwise)
    (other : quote ≠ ';')
    (follows : Extends dialect after (otherwise rest) (otherwise (rest ++ ';' :: after))) :
    Extends dialect after (scan rest) (scan (rest ++ ';' :: after)) := by
  by_cases opens : rest.head? = some quote
  · obtain ⟨body, rfl⟩ := List.head?_eq_some_iff.mp opens
    obtain ⟨condition, quoted⟩ := reads.quoted
    rw [List.cons_append, quoted, quoted]
    exact Extends.ite (fun _ => reads.isLocal.extends other token body) fun _ =>
      extends_scanWord [letter] (quote :: body)
  · have absent : (rest ++ ';' :: after).head? ≠ some quote :=
      mt (head?_semicolon_iff other rest).mp opens
    rw [reads.unquoted rest opens, reads.unquoted _ absent]
    exact follows

theorem extends_scanMarkedString
    (kinds : List Dialect)
    (kind : LiteralKind)
    {ending : List Char → Option (List Char)}
    (letter : Char)
    (isLocal : Local '\x27' fun text => (ending text).map fun behind => ((), behind))
    (rest : List Char) :
    Extends dialect after (scanMarkedString dialect kinds kind ending letter rest)
      (scanMarkedString dialect kinds kind ending letter (rest ++ ';' :: after)) :=
  (readsQuoted_scanMarkedString dialect kinds kind letter isLocal).extends (by decide)
    (extends_scanWord [letter] rest)

theorem extends_scanEitherString
    (kinds : List Dialect)
    (kind : LiteralKind)
    {ending : Char → List Char → Option (List Char)}
    (letter : Char)
    (isLocal : ∀ quote, Local quote fun text => (ending quote text).map fun behind => ((), behind))
    (rest : List Char) :
    Extends dialect after (scanEitherString dialect kinds kind ending letter rest)
      (scanEitherString dialect kinds kind ending letter (rest ++ ';' :: after)) :=
  (readsQuoted_scanEitherString dialect kinds kind letter isLocal).extends (by decide)
    (extends_scanMarkedString kinds kind letter (isLocal '\x27') rest)

/-- A string with code points behind a letter and an ampersand, or a word. -/
def scanUnicode (dialect : Dialect) (letter : Char) : List Char → Scan
  | '&' :: '\x27' :: body =>
      if dialect == .generic || dialect == .postgresql then
        Scan.ofText .unicode (unicodeText? (body.length + 1) body)
      else scanWord dialect [letter] ('&' :: '\x27' :: body)
  | rest => scanWord dialect [letter] rest

/-- The letter that marks a string with code points. -/
theorem scanLetter_of_unicode
    {letter : Char}
    (isU : letter.toUpper = 'U')
    (text : List Char) :
    scanLetter dialect letter text = some (scanUnicode dialect letter text) := by
  simp only [scanLetter, isU]
  split
  · rw [scanUnicode]
    split <;> rfl
  · next noMark =>
      rw [scanUnicode]
      exact noMark

/-- Strings with code points. -/
theorem extends_scanUnicode
    (letter : Char)
    (rest : List Char) :
    Extends dialect after (scanUnicode dialect letter rest)
      (scanUnicode dialect letter (rest ++ ';' :: after)) := by
  by_cases marked : ∃ body, rest = '&' :: '\x27' :: body
  · obtain ⟨body, rfl⟩ := marked
    rw [List.cons_append, List.cons_append, scanUnicode, scanUnicode]
    exact Extends.ite (fun _ => local_unicodeText?.extends (by decide)
        (fun text => .literal .unicode (String.ofList text)) body) fun _ =>
      extends_scanWord [letter] ('&' :: '\x27' :: body)
  · have unmarked (body : List Char) : rest ≠ '&' :: '\x27' :: body := fun equal =>
      marked ⟨body, equal⟩
    have unmarkedExtended : ∀ body, rest ++ ';' :: after ≠ '&' :: '\x27' :: body :=
      append_semicolon_ne (by decide) (by decide) unmarked
    rw [scanUnicode, scanUnicode]
    · exact extends_scanWord [letter] rest
    · exact unmarkedExtended
    · exact unmarked

/-- Words and strings that start with a letter which can mark a string. -/
theorem scanLetter_semicolon
    (dialect : Dialect)
    (letter : Char)
    (rest after : List Char) :
    (scanLetter dialect letter rest = none ∧
        scanLetter dialect letter (rest ++ ';' :: after) = none) ∨
      ∃ scan other, scanLetter dialect letter rest = some scan ∧
        scanLetter dialect letter (rest ++ ';' :: after) = some other ∧
        Extends dialect after scan other := by
  by_cases isE : letter.toUpper = 'E'
  · exact Or.inr ⟨_, _, scanLetter_of_e isE rest, scanLetter_of_e isE _,
      (readsQuoted_scanEscaped dialect letter).extends (by decide)
        (extends_scanWord [letter] rest)⟩
  by_cases isU : letter.toUpper = 'U'
  · exact Or.inr ⟨_, _, scanLetter_of_unicode isU rest, scanLetter_of_unicode isU _,
      extends_scanUnicode letter rest⟩
  unfold scanLetter
  split
  · exact Or.inr ⟨_, _, rfl, rfl, extends_scanEitherString _ _ letter
      (local_afterQuoted? .none) rest⟩
  · exact Or.inr ⟨_, _, rfl, rfl, extends_scanEitherString _ _ letter local_afterRaw? rest⟩
  · exact Or.inr ⟨_, _, rfl, rfl, extends_scanMarkedString _ _ letter
      (local_afterQuoted? _ _) rest⟩
  · next marks => exact absurd marks isE
  · next marks => exact absurd marks isU
  · exact Or.inr ⟨_, _, rfl, rfl, extends_scanMarkedString _ _ letter
      (local_afterQuoted? _ _) rest⟩
  · exact Or.inl ⟨rfl, rfl⟩

/-- The token at a position. -/
theorem extends_scanToken
    (previous : Option Token)
    (character : Char)
    (rest : List Char) :
    Extends dialect after (scanToken dialect previous character rest)
      (scanToken dialect previous character (rest ++ ';' :: after)) := by
  unfold scanToken
  rcases scanLetter_semicolon dialect character rest after with
    ⟨none, noneExtended⟩ | ⟨scan, other, equal, equalExtended, extends_⟩
  · rw [none, noneExtended]
    dsimp only
    refine Extends.ite (fun _ => ?_) (fun _ => Extends.ite (fun opens => ?_) (fun _ =>
      Extends.ite (fun _ => ?_) (fun _ => Extends.ite (fun _ => ?_) (fun _ =>
      Extends.ite (fun sign => ?_) (fun _ => Extends.ite (fun _ => ?_) (fun _ =>
      Extends.ite (fun _ => ?_) (fun _ => Extends.ite (fun _ => ?_) (fun _ =>
      Extends.ite (fun _ => ?_) (fun _ => ?_)))))))))
    · exact (local_quotedText? _ _).extends (by decide)
        (fun text => .singleQuoted (String.ofList text)) rest
    · refine (local_quotedText? _ _).extends ?_
        (fun text => .word (String.ofList text) (some character)) rest
      split
      · decide
      · rintro rfl
        cases dialect <;> exact nomatch opens
    · exact (local_quotedText? _ _).extends (by decide)
        (fun text => .doubleQuoted (String.ofList text)) rest
    · exact extends_scanNumber previous (character :: rest)
    · exact extends_scanSign (by simpa using sign) rest
    · exact extends_scanAmpersand rest
    · have fails : isNumeric ';' = false := by decide
      rw [drop_length_takeWhile, drop_length_takeWhile, takeWhile_semicolon fails,
        dropWhile_semicolon fails]
      exact Extends.of_some _
    · exact extends_scanWord _ rest
    · exact extends_scanDollar rest
    · exact extends_scanSymbol character rest
  · rw [equal, equalExtended]
    exact extends_

end Quoted

end Lexer
end Sql
end TableReach
