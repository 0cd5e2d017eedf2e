import TableReach.Sql.Lexer
import TableReach.Proofs.Sql.Lexer.Quoted

/-!
# Tokens in respaced texts

Whatever starts at a position, the token there is the same in a respaced text,
provided that the text of the token is its own line.
-/

namespace TableReach
namespace Sql
namespace Lexer

open Text

variable
  {dialect : Dialect}
  {trims : Bool}
  {rest respaced : List Char}

/-- A character of a tag between dollar signs. -/
def isTag (dialect : Dialect) (character : Char) : Bool :=
  isAlphabetic character || isNumeric character || character == '_' ||
    (dialect == .sqlite && character == '$')

theorem isTag_of_isBlank
    (dialect : Dialect)
    {character : Char}
    (blank : isBlank character = true) : isTag dialect character = false := by
  have others := eq_false_of_isBlank (fun character => character == '_' || character == '$')
    (by decide) blank
  rw [Bool.or_eq_false_iff] at others
  simp [isTag, isAlphabetic_of_isBlank blank, isNumeric_of_isBlank blank, others]

/-- A tag opens a string that ends with the same tag. -/
theorem scanDollar_tagged
    {text body : List Char}
    (opens : text.dropWhile (isTag dialect) = '$' :: body) :
    scanDollar dialect text =
      (splitAtMark? ('$' :: text.takeWhile (isTag dialect) ++ ['$']) body).map fun parts =>
        (.literal .tagged "", parts.2) := by
  unfold scanDollar
  dsimp only
  split
  · next isBody =>
      obtain rfl := (List.cons.inj (isBody.symm.trans opens)).2
      exact Option.map_map _ _ _
  · next other => exact absurd opens (other body)

/-- Without a second dollar sign it is the place for a parameter. -/
theorem scanDollar_placeholder
    {text : List Char}
    (absent : (text.dropWhile (isTag dialect)).head? ≠ some '$') :
    scanDollar dialect text =
      some (.placeholder (String.ofList ('$' :: text.takeWhile (isTag dialect))),
        text.dropWhile (isTag dialect)) := by
  unfold scanDollar
  dsimp only
  split
  · next opens => exact absurd (congrArg List.head? opens) absent
  · rfl

/-- Strings between tags and places for parameters. -/
theorem followsLine_scanDollar
    (related : Respaced dialect trims rest respaced) :
    FollowsLine dialect trims ('$' :: rest) (scanDollar dialect rest)
      (scanDollar dialect respaced) := by
  obtain ⟨sameTag, behind⟩ := related.span fun _ divides =>
    isTag_of_isBlank dialect (Dialect.isBlank_of_divides divides)
  by_cases opens : (rest.dropWhile (isTag dialect)).head? = some '$'
  · obtain ⟨body, equal⟩ := List.head?_eq_some_iff.mp opens
    rw [equal] at behind
    obtain ⟨bodyRespaced, equalRespaced, bodyRelated⟩ := behind.exists_of_letter rfl
    have split : '$' :: rest = ('$' :: rest.takeWhile (isTag dialect) ++ ['$']) ++ body := by
      have parts := List.takeWhile_append_dropWhile (p := isTag dialect) (l := rest)
      rw [equal] at parts
      rw [List.append_assoc, List.singleton_append, List.cons_append, parts]
    rw [scanDollar_tagged equal, scanDollar_tagged equalRespaced, sameTag, split]
    exact Local.followsLine (localAt_splitAtMark? '$' (by simp)) (by decide)
      (fun _ => .literal .tagged "") _ bodyRelated
  · have absent : (respaced.dropWhile (isTag dialect)).head? ≠ some '$' := fun first =>
      opens (behind.head?_eq first (by decide))
    rw [scanDollar_placeholder opens, scanDollar_placeholder absent, sameTag]
    exact (Follows.of_some behind).followsLine _

/-- A scan behind a letter finds a string where a quote follows in some dialects, else a word;
without the quote another scan decides. -/
structure ReadsQuoted
    {α : Type}
    (dialect : Dialect)
    (letter quote : Char)
    (read : List Char → Option (α × List Char))
    (token : α → Token)
    (scan otherwise : List Char → Scan) : Prop where
  /-- What is read is local. -/
  isLocal : Local quote read
  /-- What a quote opens. -/
  quoted : ∃ condition : Bool, ∀ body, scan (quote :: body) =
    if condition then (read body).map fun parts => (token parts.1, parts.2)
    else scanWord dialect [letter] (quote :: body)
  /-- What stands there without a quote. -/
  unquoted : ∀ text, text.head? ≠ some quote → scan text = otherwise text

/-- Strings behind a letter. -/
theorem ReadsQuoted.followsLine
    {α : Type}
    {letter quote : Char}
    {read : List Char → Option (α × List Char)}
    {token : α → Token}
    {scan otherwise : List Char → Scan}
    (reads : ReadsQuoted dialect letter quote read token scan otherwise)
    (notBlank : isBlank quote = false)
    (follows : FollowsLine dialect trims (letter :: rest) (otherwise rest) (otherwise respaced))
    (related : Respaced dialect trims rest respaced) :
    FollowsLine dialect trims (letter :: rest) (scan rest) (scan respaced) := by
  have notSpace : quote ≠ ' ' := by
    rintro rfl
    exact nomatch notBlank
  by_cases opens : rest.head? = some quote
  · obtain ⟨body, rfl⟩ := List.head?_eq_some_iff.mp opens
    obtain ⟨others, rfl, othersRelated⟩ := related.exists_of_letter notBlank
    obtain ⟨condition, quoted⟩ := reads.quoted
    rw [quoted, quoted]
    split
    · exact reads.isLocal.followsLine notSpace token [letter, quote] othersRelated
    · exact (follows_scanWord [letter] related).followsLine _
  · have absent : respaced.head? ≠ some quote := fun first =>
      opens (related.head?_eq first notSpace)
    rw [reads.unquoted rest opens, reads.unquoted respaced absent]
    exact follows

/-- A string in single quotes behind a letter. -/
theorem readsQuoted_scanMarkedString
    (dialect : Dialect)
    (kinds : List Dialect)
    (kind : LiteralKind)
    {ending : List Char → Option (List Char)}
    (letter : Char)
    (isLocal : Local '\x27' fun text => (ending text).map fun behind => ((), behind)) :
    ReadsQuoted dialect letter '\x27' (fun text => (ending text).map fun behind => ((), behind))
      (fun _ => .literal kind "") (scanMarkedString dialect kinds kind ending letter)
      (scanWord dialect [letter]) := by
  refine ⟨isLocal, ⟨kinds.contains dialect, fun body => ?_⟩, fun text absent => ?_⟩
  · rw [scanMarkedString, Option.map_map]
    rfl
  · unfold scanMarkedString
    split
    · exact absurd rfl absent
    · rfl

/-- A string in double quotes behind a letter; one in single quotes is left to another scan. -/
theorem readsQuoted_scanEitherString
    (dialect : Dialect)
    (kinds : List Dialect)
    (kind : LiteralKind)
    {ending : Char → List Char → Option (List Char)}
    (letter : Char)
    (isLocal : ∀ quote, Local quote fun text => (ending quote text).map fun behind => ((), behind)) :
    ReadsQuoted dialect letter '"' (fun text => (ending '"' text).map fun behind => ((), behind))
      (fun _ => .literal kind "") (scanEitherString dialect kinds kind ending letter)
      (scanMarkedString dialect kinds kind (ending '\x27') letter) := by
  refine ⟨isLocal '"', ⟨kinds.contains dialect, fun body => ?_⟩, fun text absent => ?_⟩
  · rw [scanEitherString, Option.map_map]
    rfl
  · unfold scanEitherString
    split
    · exact absurd rfl absent
    · rfl

/-- Strings in single quotes behind a letter. -/
theorem followsLine_scanMarkedString
    (kinds : List Dialect)
    (kind : LiteralKind)
    {ending : List Char → Option (List Char)}
    (letter : Char)
    (isLocal : Local '\x27' fun text => (ending text).map fun behind => ((), behind))
    (related : Respaced dialect trims rest respaced) :
    FollowsLine dialect trims (letter :: rest)
      (scanMarkedString dialect kinds kind ending letter rest)
      (scanMarkedString dialect kinds kind ending letter respaced) :=
  (readsQuoted_scanMarkedString dialect kinds kind letter isLocal).followsLine rfl
    ((follows_scanWord [letter] related).followsLine _) related

/-- Strings in single or double quotes behind a letter. -/
theorem followsLine_scanEitherString
    (kinds : List Dialect)
    (kind : LiteralKind)
    {ending : Char → List Char → Option (List Char)}
    (letter : Char)
    (isLocal : ∀ quote, Local quote fun text => (ending quote text).map fun behind => ((), behind))
    (related : Respaced dialect trims rest respaced) :
    FollowsLine dialect trims (letter :: rest)
      (scanEitherString dialect kinds kind ending letter rest)
      (scanEitherString dialect kinds kind ending letter respaced) :=
  (readsQuoted_scanEitherString dialect kinds kind letter isLocal).followsLine rfl
    (followsLine_scanMarkedString kinds kind letter (isLocal '\x27') related) related

theorem local_afterQuoted?
    (escapes : Escapes)
    (close : Char) :
    Local close fun text => (afterQuoted? escapes close text).map fun behind => ((), behind) := by
  intro text
  refine LocalAt.append [] (fun _ => ()) ?_ (local_quotedText? close escapes text)
  intro text
  simp [afterQuoted?, Function.comp_def]

/-- A string with escapes behind a letter, or a word. -/
def scanEscaped (dialect : Dialect) (letter : Char) : List Char → Scan
  | '\x27' :: body =>
      if dialect == .generic || dialect == .postgresql then
        Scan.ofText .escaped (escapedText? (body.length + 1) body)
      else scanWord dialect [letter] ('\x27' :: body)
  | rest => scanWord dialect [letter] rest

/-- A string with escapes behind a letter. -/
theorem readsQuoted_scanEscaped
    (dialect : Dialect)
    (letter : Char) :
    ReadsQuoted dialect letter '\x27' (fun text => escapedText? (text.length + 1) text)
      (fun text => .literal .escaped (String.ofList text)) (scanEscaped dialect letter)
      (scanWord dialect [letter]) := by
  refine ⟨local_escapedText?, ⟨dialect == .generic || dialect == .postgresql, fun _ => rfl⟩,
    fun text absent => ?_⟩
  unfold scanEscaped
  split
  · exact absurd rfl absent
  · rfl

theorem followsLine_scanEscaped
    (letter : Char)
    (related : Respaced dialect trims rest respaced) :
    FollowsLine dialect trims (letter :: rest) (scanEscaped dialect letter rest)
      (scanEscaped dialect letter respaced) :=
  (readsQuoted_scanEscaped dialect letter).followsLine rfl
    ((follows_scanWord [letter] related).followsLine _) related

/-- The letter that marks a string with escapes. -/
theorem scanLetter_of_e
    {letter : Char}
    (isE : letter.toUpper = 'E')
    (text : List Char) :
    scanLetter dialect letter text = some (scanEscaped dialect letter text) := by
  simp only [scanLetter, isE]
  split
  · rw [scanEscaped]
    split <;> rfl
  · next notQuote =>
      rw [scanEscaped]
      exact notQuote

/-- The letter that marks a string with code points, behind which no such string stands. -/
theorem scanLetter_of_u
    {letter : Char}
    {text : List Char}
    (isU : letter.toUpper = 'U')
    (noMark : text.head? ≠ some '&') :
    scanLetter dialect letter text = some (scanWord dialect [letter] text) := by
  simp only [scanLetter, isU]
  split
  · exact absurd rfl noMark
  · rfl

/-- Words and strings that start with a letter which can mark a string. -/
theorem scanLetter_cases
    (letter : Char)
    (noAmpersand : '&' ∉ rest)
    (related : Respaced dialect trims rest respaced) :
    (scanLetter dialect letter rest = none ∧ scanLetter dialect letter respaced = none) ∨
      ∃ scan other, scanLetter dialect letter rest = some scan ∧
        scanLetter dialect letter respaced = some other ∧
        FollowsLine dialect trims (letter :: rest) scan other := by
  by_cases isE : letter.toUpper = 'E'
  · exact Or.inr ⟨_, _, scanLetter_of_e isE rest, scanLetter_of_e isE respaced,
      followsLine_scanEscaped letter related⟩
  by_cases isU : letter.toUpper = 'U'
  · have noMark : rest.head? ≠ some '&' := fun first => noAmpersand (List.mem_of_head? first)
    have noMarkRespaced : respaced.head? ≠ some '&' := fun first =>
      noMark (related.head?_eq first (by decide))
    exact Or.inr ⟨_, _, scanLetter_of_u isU noMark, scanLetter_of_u isU noMarkRespaced,
      (follows_scanWord [letter] related).followsLine _⟩
  unfold scanLetter
  split
  · exact Or.inr ⟨_, _, rfl, rfl, followsLine_scanEitherString _ _ letter
      (local_afterQuoted? .none) related⟩
  · exact Or.inr ⟨_, _, rfl, rfl, followsLine_scanEitherString _ _ letter
      local_afterRaw? related⟩
  · exact Or.inr ⟨_, _, rfl, rfl, followsLine_scanMarkedString _ _ letter
      (local_afterQuoted? _ _) related⟩
  · next marks => exact absurd marks isE
  · next marks => exact absurd marks isU
  · exact Or.inr ⟨_, _, rfl, rfl, followsLine_scanMarkedString _ _ letter
      (local_afterQuoted? _ _) related⟩
  · exact Or.inl ⟨rfl, rfl⟩

/-- The token at a position. -/
theorem followsLine_scanToken
    {character : Char}
    (previous : Option Token)
    (notBlank : isBlank character = false)
    (noAmpersand : '&' ∉ character :: rest)
    (related : Respaced dialect trims rest respaced) :
    FollowsLine dialect trims (character :: rest) (scanToken dialect previous character rest)
      (scanToken dialect previous character respaced) := by
  have notSpace : character ≠ ' ' := by
    rintro rfl
    exact nomatch notBlank
  rw [List.mem_cons, not_or] at noAmpersand
  unfold scanToken
  rcases scanLetter_cases character noAmpersand.2 related with
    ⟨none, noneRespaced⟩ | ⟨scan, other, equal, equalRespaced, follows⟩
  · rw [none, noneRespaced]
    dsimp only
    refine FollowsLine.ite (fun _ => ?_) (fun _ => FollowsLine.ite (fun _ => ?_) (fun _ =>
      FollowsLine.ite (fun _ => ?_) (fun _ => FollowsLine.ite (fun _ => ?_) (fun _ =>
      FollowsLine.ite (fun sign => ?_) (fun _ => FollowsLine.ite (fun ampersand => ?_) (fun _ =>
      FollowsLine.ite (fun _ => ?_) (fun _ => FollowsLine.ite (fun _ => ?_) (fun _ =>
      FollowsLine.ite (fun dollar => ?_) (fun _ => ?_)))))))))
    · exact (local_quotedText? _ _).followsLine (by decide)
        (fun text => .singleQuoted (String.ofList text)) [character] related
    · refine (local_quotedText? _ _).followsLine ?_
        (fun text => .word (String.ofList text) (some character)) [character] related
      split
      · decide
      · exact notSpace
    · exact (local_quotedText? _ _).followsLine (by decide)
        (fun text => .doubleQuoted (String.ofList text)) [character] related
    · exact (follows_scanNumber previous (Respaced.letter notBlank related)).followsLine _
    · exact followsLine_scanSign (by simpa using sign) related
    · exact absurd (beq_iff_eq.mp ampersand).symm noAmpersand.1
    · obtain ⟨sameDigits, behind⟩ := related.span fun _ divides =>
        isNumeric_of_isBlank (Dialect.isBlank_of_divides divides)
      rw [drop_length_takeWhile, drop_length_takeWhile, sameDigits]
      exact (Follows.of_some behind).followsLine _
    · exact (follows_scanWord _ related).followsLine _
    · obtain rfl := beq_iff_eq.mp dollar
      exact followsLine_scanDollar related
    · exact (follows_scanSymbol notBlank related).followsLine _
  · rw [equal, equalRespaced]
    exact follows

/-- What a local reader leaves is an end of the text. -/
theorem Local.leaves
    {α : Type}
    {stop : Char}
    {read : List Char → Option (α × List Char)}
    (isLocal : Local stop read)
    (token : α → Token)
    (text : List Char) :
    Leaves text ((read text).map fun parts => (token parts.1, parts.2)) := by
  intro found behind foundEqual
  obtain ⟨parts, readEqual, equal⟩ := Option.map_eq_some_iff.mp foundEqual
  obtain ⟨rfl, rfl⟩ := Prod.mk.inj equal
  obtain ⟨whole, split, _⟩ := isLocal text parts.1 parts.2 readEqual
  exact ⟨whole, split.symm⟩

/-- Strings in single quotes behind a letter. -/
theorem leaves_scanMarkedString
    (kinds : List Dialect)
    (kind : LiteralKind)
    {ending : List Char → Option (List Char)}
    (letter : Char)
    (isLocal : Local '\x27' fun text => (ending text).map fun behind => ((), behind))
    (rest : List Char) :
    Leaves rest (scanMarkedString dialect kinds kind ending letter rest) := by
  unfold scanMarkedString
  split
  · next body =>
      split
      · have leaves := isLocal.leaves (fun _ => .literal kind "") body
        rw [Option.map_map] at leaves
        exact leaves.trans (List.suffix_cons _ body)
      · exact leaves_scanWord _ _
  · exact leaves_scanWord _ _

/-- Strings in single or double quotes behind a letter. -/
theorem leaves_scanEitherString
    (kinds : List Dialect)
    (kind : LiteralKind)
    {ending : Char → List Char → Option (List Char)}
    (letter : Char)
    (isLocal : ∀ quote, Local quote fun text => (ending quote text).map fun behind => ((), behind))
    (rest : List Char) :
    Leaves rest (scanEitherString dialect kinds kind ending letter rest) := by
  unfold scanEitherString
  split
  · next body =>
      split
      · have leaves := (isLocal '"').leaves (fun _ => .literal kind "") body
        rw [Option.map_map] at leaves
        exact leaves.trans (List.suffix_cons _ body)
      · exact leaves_scanWord _ _
  · exact leaves_scanMarkedString _ _ letter (isLocal '\x27') rest

/-- Words and strings that start with a letter which can mark a string. -/
theorem leaves_scanLetter
    {letter : Char}
    {scan : Scan}
    (found : scanLetter dialect letter rest = some scan) : Leaves rest scan := by
  unfold scanLetter at found
  split at found
  · obtain rfl := Option.some_inj.mp found
    exact leaves_scanEitherString _ _ letter (local_afterQuoted? .none) rest
  · obtain rfl := Option.some_inj.mp found
    exact leaves_scanEitherString _ _ letter local_afterRaw? rest
  · obtain rfl := Option.some_inj.mp found
    exact leaves_scanMarkedString _ _ letter (local_afterQuoted? _ _) rest
  · split at found
    · next body =>
        split at found
        · obtain rfl := Option.some_inj.mp found
          exact (local_escapedText?.leaves (fun text => .literal .escaped (String.ofList text))
            body).trans (List.suffix_cons _ body)
        · obtain rfl := Option.some_inj.mp found
          exact leaves_scanWord _ _
    · obtain rfl := Option.some_inj.mp found
      exact leaves_scanWord _ _
  · split at found
    · next body =>
        split at found
        · obtain rfl := Option.some_inj.mp found
          exact (local_unicodeText?.leaves (fun text => .literal .unicode (String.ofList text))
            body).trans ⟨['&', '\x27'], rfl⟩
        · obtain rfl := Option.some_inj.mp found
          exact leaves_scanWord _ _
    · obtain rfl := Option.some_inj.mp found
      exact leaves_scanWord _ _
  · obtain rfl := Option.some_inj.mp found
    exact leaves_scanMarkedString _ _ letter (local_afterQuoted? _ _) rest
  · exact nomatch found

/-- Strings between tags and places for parameters. -/
theorem leaves_scanDollar
    (rest : List Char) : Leaves rest (scanDollar dialect rest) := by
  unfold scanDollar
  dsimp only
  split
  · next body opens =>
      have leaves := Local.leaves (localAt_splitAtMark? '$'
        (List.cons_ne_nil '$' (rest.takeWhile (isTag dialect) ++ ['$'])))
          (fun _ => .literal .tagged "") body
      unfold Scan.ofLiteral
      rw [Option.map_map]
      have suffix : body <:+ rest :=
        (List.suffix_cons '$' body).trans (opens ▸ List.dropWhile_suffix _)
      exact leaves.trans suffix
  · exact Leaves.of_some (List.dropWhile_suffix _)

theorem leaves_scanAmpersand
    (rest : List Char) : Leaves rest (scanAmpersand dialect rest) := by
  unfold scanAmpersand
  split
  · next behind => exact Leaves.of_some ((List.drop_suffix 1 behind).trans (List.suffix_cons _ _))
  · exact leaves_scanSymbol '&' rest

/-- A token takes at least one character. -/
theorem leaves_scanToken
    (previous : Option Token)
    (character : Char)
    (rest : List Char) : Leaves rest (scanToken dialect previous character rest) := by
  unfold scanToken
  split
  · next scan found => exact leaves_scanLetter found
  · refine Leaves.ite (fun _ => ?_) (fun _ => Leaves.ite (fun _ => ?_) (fun _ =>
      Leaves.ite (fun _ => ?_) (fun _ => Leaves.ite (fun starts => ?_) (fun _ =>
      Leaves.ite (fun _ => ?_) (fun _ => Leaves.ite (fun _ => ?_) (fun _ =>
      Leaves.ite (fun _ => ?_) (fun _ => Leaves.ite (fun _ => ?_) (fun _ =>
      Leaves.ite (fun _ => ?_) (fun _ => ?_)))))))))
    · exact (local_quotedText? _ _).leaves (fun text => .singleQuoted (String.ofList text)) rest
    · exact (local_quotedText? _ _).leaves
        (fun text => .word (String.ofList text) (some character)) rest
    · exact (local_quotedText? _ _).leaves (fun text => .doubleQuoted (String.ofList text)) rest
    · exact leaves_scanNumber previous rest starts
    · exact leaves_scanSign character rest
    · exact leaves_scanAmpersand rest
    · exact Leaves.of_some (List.drop_suffix _ _)
    · exact leaves_scanWord _ _
    · exact leaves_scanDollar rest
    · exact leaves_scanSymbol character rest

end Lexer
end Sql
end TableReach
