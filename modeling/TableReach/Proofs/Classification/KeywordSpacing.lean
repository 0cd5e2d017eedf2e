import TableReach.Classification.Keyword
import TableReach.Proofs.Sql.Spacing
import TableReach.Proofs.Text.Search

/-!
# Keyword search and spacing

The clauses that keyword search looks for are keywords and a name with blanks
between them, however many.  So it finds the same tables in a text and in the text
on one line.
-/

namespace TableReach
open Text Sql

/-- What a recognizer finds depends on no blank but on whether there is one: it finds nothing at
blanks, and in a respaced text it finds the same, up to the same character. -/
structure IgnoresSpacing (recognize : Recognizer α) : Prop where
  /-- Nothing is found at a blank. -/
  blank : ∀ before character rest, isBlank character = true →
    recognize before (character :: rest) = none
  /-- Nothing is found in both texts, or the same in both. -/
  respaced : ∀ {before beforeRespaced text respaced},
    startsWord beforeRespaced = startsWord before → Respaced .generic true text respaced →
    (recognize before text = none ∧ recognize beforeRespaced respaced = none) ∨
      ∃ value last start rest startRespaced restRespaced,
        text = start ++ last :: rest ∧ recognize before text = some (value, rest) ∧
          respaced = startRespaced ++ last :: restRespaced ∧
          recognize beforeRespaced respaced = some (value, restRespaced) ∧
          Respaced .generic true rest restRespaced

namespace IgnoresSpacing

/-- The search finds the same in a text and in the respaced one. -/
theorem values_piecesFrom
    {recognize : Recognizer α}
    {before beforeRespaced : Option Char}
    {text respaced : List Char}
    (ignores : IgnoresSpacing recognize)
    (sameBefore : startsWord beforeRespaced = startsWord before ∨ startsBlank text = true)
    (related : Respaced .generic true text respaced) :
    Piece.values (piecesFrom recognize beforeRespaced 0 respaced) =
      Piece.values (piecesFrom recognize before 0 text) := by
  obtain ⟨limit, short⟩ : ∃ limit, text.length ≤ limit := ⟨_, Nat.le_refl _⟩
  induction limit generalizing before beforeRespaced text respaced with
  | zero =>
      obtain rfl := List.length_eq_zero_iff.mp (Nat.le_zero.mp short)
      rw [related.eq_nil]
      rfl
  | succ limit inductionHypothesis =>
      have skip (character : Char) (rest : List Char) (before : Option Char)
          (blank : isBlank character = true) :
          Piece.values (piecesFrom recognize before 0 (character :: rest)) =
            Piece.values (piecesFrom recognize (some character) 0 rest) := by
        rw [piecesFrom, ignores.blank before character rest blank]
        rfl
      cases related with
      | nil => rfl
      | ending divides =>
          rw [skip _ _ _ (Dialect.isBlank_of_divides divides)]
          rfl
      | space divides last others =>
          rw [skip _ _ _ (Dialect.isBlank_of_divides divides), skip _ _ _ rfl]
          refine inductionHypothesis (Or.inl ?_) others (Nat.le_of_succ_le_succ short)
          rw [startsWord_of_isBlank (Dialect.isBlank_of_divides divides), startsWord_of_isBlank rfl]
      | run divides more others =>
          rw [skip _ _ _ (Dialect.isBlank_of_divides divides)]
          exact inductionHypothesis (Or.inr more) others (Nat.le_of_succ_le_succ short)
      | letter notBlank others =>
          have same := sameBefore.resolve_right (Bool.eq_false_iff.mp notBlank)
          rcases ignores.respaced same (Respaced.letter notBlank others) with
            ⟨nothing, nothingRespaced⟩ | ⟨value, last, start, rest, startRespaced, restRespaced,
              split, found, splitRespaced, foundRespaced, related⟩
          · rw [piecesFrom, nothingRespaced, piecesFrom, nothing]
            exact inductionHypothesis (Or.inl rfl) others (Nat.le_of_succ_le_succ short)
          · rw [piecesFrom_of_found splitRespaced foundRespaced, piecesFrom_of_found split found]
            refine congrArg (value :: ·) (inductionHypothesis (Or.inl rfl) related ?_)
            rw [split, List.length_append, List.length_cons] at short
            omega

/-- The search finds the same in a text and in the text on one line. -/
theorem values_collapse
    {recognize : Recognizer α}
    {before : Option Char}
    (ignores : IgnoresSpacing recognize)
    (starts : startsWord before = true)
    (text : List Char) :
    Piece.values (piecesFrom recognize none 0 (collapse text)) =
      Piece.values (piecesFrom recognize before 0 text) := by
  induction text generalizing before with
  | nil => rfl
  | cons character rest inductionHypothesis =>
      by_cases blank : isBlank character = true
      · rw [collapse_cons_of_isBlank rest blank, piecesFrom,
          ignores.blank before character rest blank,
          inductionHypothesis (startsWord_of_isBlank blank)]
        rfl
      · have letter : startsBlank (character :: rest) = false := Bool.eq_false_iff.mpr blank
        rw [collapse_of_startsBlank letter]
        refine ignores.values_piecesFrom (Or.inl starts.symm) (Respaced.of_line ?_)
        intro other _ blank
        have noName := eq_false_of_isBlank Dialect.generic.startsName (by decide +kernel) blank
        rw [Dialect.divides, blank, noName]
        rfl

end IgnoresSpacing

namespace Keyword

variable
  {text respaced : List Char}

theorem isBlank_fold
    {character : Char}
    (blank : isBlank character = true) : isBlank (fold character) = true := by
  have same : (isBlank (fold character) == false) = false :=
    eq_false_of_isBlank (fun character => isBlank (fold character) == false) (by decide) blank
  simpa using same

/-- No keyword starts with a blank. -/
theorem afterKeyword?_of_startsBlank
    {letter : Char}
    (word : List Char)
    (notBlank : isBlank letter = false)
    (blank : ∀ character ∈ text.head?, isBlank character = true) :
    afterKeyword? (letter :: word) text = none := by
  cases text with
  | nil => rfl
  | cons character rest =>
      rw [afterKeyword?, if_neg]
      intro same
      have isBlank := isBlank_fold (blank character rfl)
      rw [beq_iff_eq.mp same, notBlank] at isBlank
      cases isBlank

/-- What two texts leave of themselves is respaced, or nothing is left of the respaced one and
nothing but its end of the other. -/
def Near (rest restRespaced : Option (List Char)) : Prop :=
  (∃ left leftRespaced, rest = some left ∧ restRespaced = some leftRespaced ∧
    Respaced .generic true left leftRespaced) ∨
  (restRespaced = none ∧ ∀ left, rest = some left → left = [])

/-- A keyword stands in a respaced text where it stands in the text. -/
theorem near_afterKeyword?
    {word : List Char}
    (notBlank : ∀ letter ∈ word, isBlank letter = false)
    (related : Respaced .generic true text respaced) :
    Near (afterKeyword? word text) (afterKeyword? word respaced) := by
  induction word generalizing text respaced with
  | nil => exact Or.inl ⟨_, _, rfl, rfl, related⟩
  | cons letter word inductionHypothesis =>
      rcases related.start_cases with ⟨character, rest, others, _, rfl, rfl, othersRelated⟩ |
        ⟨blank, space⟩
      · rw [afterKeyword?, afterKeyword?]
        split
        · exact inductionHypothesis (fun other present =>
            notBlank other (List.mem_cons_of_mem _ present)) othersRelated
        · exact Or.inr ⟨rfl, by rintro _ ⟨⟩⟩
      · have letterNotBlank := notBlank letter List.mem_cons_self
        rw [afterKeyword?_of_startsBlank word letterNotBlank fun character first =>
            Dialect.isBlank_of_divides (blank character first),
          afterKeyword?_of_startsBlank word letterNotBlank fun character first => by
            rw [space character first]; rfl]
        exact Or.inr ⟨rfl, by rintro _ ⟨⟩⟩

/-- Blanks stand in a respaced text where they stand in the text, but for its end. -/
theorem near_afterBlanks?
    (related : Respaced .generic true text respaced) :
    Near (afterBlanks? text) (afterBlanks? respaced) := by
  have trimmed (character : Char) (rest : List Char) (blank : isBlank character = true) :
      afterBlanks? (character :: rest) = some (trimLeft (character :: rest)) := by
    rw [afterBlanks?, if_pos blank, trimLeft_cons_of_isBlank rest blank]
  cases text with
  | nil =>
      rw [related.eq_nil]
      exact Or.inr ⟨rfl, by rintro _ ⟨⟩⟩
  | cons character rest =>
      by_cases blank : isBlank character = true
      · rw [trimmed character rest blank]
        rcases related.trimLeft_cases blank with ⟨others, rfl, letter, othersRelated⟩ |
          ⟨rfl, nothing⟩
        · refine Or.inl ⟨_, _, rfl, ?_, othersRelated⟩
          rw [trimmed ' ' others rfl, trimLeft_cons_of_isBlank others rfl,
            trimLeft_of_startsBlank letter]
        · refine Or.inr ⟨rfl, ?_⟩
          rintro _ ⟨⟩
          exact nothing
      · obtain ⟨others, rfl, _⟩ := related.exists_of_letter (Bool.eq_false_iff.mpr blank)
        rw [afterBlanks?, if_neg blank, afterBlanks?, if_neg blank]
        exact Or.inr ⟨rfl, by rintro _ ⟨⟩⟩

theorem afterWords?_cons
    (word : String)
    (words : List String)
    (text : List Char) :
    afterWords? (word :: words) text =
      ((afterKeyword? word.toList text).bind afterBlanks?).bind (afterWords? words) := by
  rw [Option.bind_assoc]
  rfl

/-- What stands behind words is an end of the text. -/
theorem afterWords?_suffix
    {words : List String}
    {rest : List Char}
    (found : afterWords? words text = some rest) : rest <:+ text := by
  induction words generalizing text with
  | nil => exact Option.some_inj.mp found ▸ List.suffix_refl text
  | cons word words inductionHypothesis =>
      rw [afterWords?_cons, Option.bind_eq_some_iff] at found
      obtain ⟨behindBlanks, found, foundOthers⟩ := found
      obtain ⟨behindWord, foundWord, foundBlanks⟩ := Option.bind_eq_some_iff.mp found
      exact (inductionHypothesis foundOthers).trans
        ((afterBlanks?_suffix foundBlanks).trans (afterKeyword?_suffix foundWord))

/-- What is read next in both texts. -/
theorem Near.bind
    {rest restRespaced : Option (List Char)}
    {next : List Char → Option (List Char)}
    (near : Near rest restRespaced)
    (suffix : ∀ left, next [] = some left → left <:+ [])
    (step : ∀ {text respaced}, Respaced .generic true text respaced →
      Near (next text) (next respaced)) : Near (rest.bind next) (restRespaced.bind next) := by
  rcases near with ⟨left, leftRespaced, rfl, rfl, related⟩ | ⟨rfl, ending⟩
  · exact step related
  · refine Or.inr ⟨rfl, ?_⟩
    intro left found
    obtain ⟨between, equal, foundNext⟩ := Option.bind_eq_some_iff.mp found
    obtain rfl := ending between equal
    exact List.suffix_nil.mp (suffix left foundNext)

/-- Words stand in a respaced text where they stand in the text, but for its end. -/
theorem near_afterWords?
    {words : List String}
    (notBlank : ∀ word ∈ words, ∀ letter ∈ word.toList, isBlank letter = false)
    (related : Respaced .generic true text respaced) :
    Near (afterWords? words text) (afterWords? words respaced) := by
  induction words generalizing text respaced with
  | nil => exact Or.inl ⟨_, _, rfl, rfl, related⟩
  | cons word words inductionHypothesis =>
      rw [afterWords?_cons, afterWords?_cons]
      refine Near.bind ?_ (fun _ => afterWords?_suffix) (inductionHypothesis fun other present =>
        notBlank other (List.mem_cons_of_mem _ present))
      exact (near_afterKeyword? (notBlank word List.mem_cons_self) related).bind
        (fun _ => afterBlanks?_suffix) near_afterBlanks?

/-- A quote that a name can stand between is skipped in both texts. -/
theorem skipQuote_respaced
    (related : Respaced .generic true text respaced) :
    ∃ quote, text = quote ++ skipQuote text ∧ respaced = quote ++ skipQuote respaced ∧
      Respaced .generic true (skipQuote text) (skipQuote respaced) := by
  rcases related.start_cases with ⟨character, rest, others, _, rfl, rfl, othersRelated⟩ |
    ⟨blank, space⟩
  · rw [skipQuote, skipQuote]
    split
    · exact ⟨[character], rfl, rfl, othersRelated⟩
    · exact ⟨[], rfl, rfl, related⟩
  · have noQuote (text : List Char) (blank : ∀ character ∈ text.head?, isBlank character = true) :
        skipQuote text = text := by
      cases text with
      | nil => rfl
      | cons character rest =>
          have notQuote := eq_false_of_isBlank isNameQuote (by decide) (blank character rfl)
          rw [skipQuote, notQuote]
          rfl
    rw [noQuote text fun character first => Dialect.isBlank_of_divides (blank character first),
      noQuote respaced fun character first => by rw [space character first]; rfl]
    exact ⟨[], rfl, rfl, related⟩

/-- A name is a run of word characters, with a quote allowed on each side. -/
theorem name?_eq
    {quote run closing rest : List Char}
    (opening : text = quote ++ skipQuote text)
    (isRun : (skipQuote text).takeWhile isWord = run)
    (behind : (skipQuote text).dropWhile isWord = closing ++ rest)
    (isRest : skipQuote (closing ++ rest) = rest) :
    text = quote ++ run ++ closing ++ rest ∧
      name? text = run.head?.map fun _ => (quote ++ run ++ closing, rest) := by
  have whole : text = quote ++ run ++ closing ++ rest := by
    rw [List.append_assoc, List.append_assoc, ← behind, ← isRun, List.takeWhile_append_dropWhile]
    exact opening
  have name : consumed text rest = quote ++ run ++ closing := by
    rw [whole, consumed_append]
  refine ⟨whole, ?_⟩
  rw [← name, ← isRun, List.head?_takeWhile, name?, behind, isRest]
  cases (skipQuote text).head?.filter isWord <;> rfl

/-- A name stands in a respaced text where it stands in the text. -/
theorem name?_respaced
    (related : Respaced .generic true text respaced) :
    (name? text = none ∧ name? respaced = none) ∨
      ∃ name last rest restRespaced,
        name? text = some (name ++ [last], rest) ∧
          name? respaced = some (name ++ [last], restRespaced) ∧
          text = name ++ last :: rest ∧ respaced = name ++ last :: restRespaced ∧
          Respaced .generic true rest restRespaced := by
  obtain ⟨quote, opening, openingRespaced, insideRelated⟩ := skipQuote_respaced related
  obtain ⟨sameRun, behindRelated⟩ := insideRelated.span fun _ divides =>
    isWord_of_isBlank (Dialect.isBlank_of_divides divides)
  obtain ⟨closing, closingEqual, closingRespaced, restRelated⟩ := skipQuote_respaced behindRelated
  obtain ⟨whole, found⟩ := name?_eq opening rfl closingEqual (by rw [← closingEqual])
  obtain ⟨wholeRespaced, foundRespaced⟩ :=
    name?_eq openingRespaced sameRun closingRespaced (by rw [← closingRespaced])
  cases run : (skipQuote text).takeWhile isWord with
  | nil =>
      rw [run] at found foundRespaced
      exact Or.inl ⟨found, foundRespaced⟩
  | cons first others =>
      rw [run] at whole wholeRespaced found foundRespaced
      rcases List.eq_nil_or_concat (quote ++ first :: others ++ closing) with nothing |
        ⟨name, last, equal⟩
      · simp at nothing
      · rw [equal, List.concat_eq_append] at whole wholeRespaced found foundRespaced
        rw [List.append_assoc] at whole wholeRespaced
        exact Or.inr ⟨name, last, _, _, found, foundRespaced, whole, wholeRespaced, restRelated⟩

/-- No clause starts with a blank. -/
theorem Clause.afterWords?_of_isBlank
    (clause : Clause)
    {character : Char}
    (rest : List Char)
    (blank : isBlank character = true) :
    afterWords? clause.words (character :: rest) = none := by
  have first : ∀ other ∈ (character :: rest).head?, isBlank other = true := by
    rintro _ ⟨⟩
    exact blank
  obtain ⟨word, others, letter, letters, isWords, isLetters, notBlank⟩ :
      ∃ word others letter letters, clause.words = word :: others ∧
        word.toList = letter :: letters ∧ isBlank letter = false := by
    cases clause <;> exact ⟨_, _, _, _, rfl, rfl, rfl⟩
  rw [isWords, afterWords?_cons, isLetters, afterKeyword?_of_startsBlank letters notBlank first]
  rfl

/-- What a clause recognizes depends on no blank but on whether there is one. -/
theorem Clause.ignoresSpacing (clause : Clause) : IgnoresSpacing clause.recognize := by
  refine ⟨?_, ?_⟩
  · intro before character rest blank
    rw [recognize, clause.afterWords?_of_isBlank rest blank, ite_self]
    rfl
  · intro before beforeRespaced text respaced same related
    have noBlank : (clause.words.any fun word => word.toList.any isBlank) = false := by
      cases clause <;> decide
    have notBlank : ∀ word ∈ clause.words, ∀ letter ∈ word.toList, isBlank letter = false := by
      simpa only [List.any_eq_false, Bool.not_eq_true] using noBlank
    rw [recognize, recognize, same]
    split
    · rcases near_afterWords? notBlank related with
        ⟨left, leftRespaced, found, foundRespaced, leftRelated⟩ | ⟨nothing, ending⟩
      · obtain ⟨start, rfl⟩ := afterWords?_suffix found
        obtain ⟨startRespaced, rfl⟩ := afterWords?_suffix foundRespaced
        rw [found, foundRespaced]
        rcases name?_respaced leftRelated with ⟨noName, noNameRespaced⟩ | ⟨name, last, rest,
          restRespaced, isName, isNameRespaced, rfl, rfl, restRelated⟩
        · exact Or.inl ⟨noName, noNameRespaced⟩
        · exact Or.inr ⟨_, last, start ++ name, rest, startRespaced ++ name, restRespaced,
            (List.append_assoc _ _ _).symm, isName, (List.append_assoc _ _ _).symm, isNameRespaced,
            restRelated⟩
      · rw [nothing]
        refine Or.inl ⟨?_, rfl⟩
        cases found : afterWords? clause.words text with
        | none => rfl
        | some left =>
            rw [ending left found]
            rfl
    · exact Or.inl ⟨rfl, rfl⟩

theorem selectTables_collapse (text : List Char) :
    selectTables (collapse text) = selectTables text := by
  have names (clause : Clause) : clause.names (collapse text) = clause.names text := by
    rw [Clause.names, Clause.names, findAll, findAll, pieces, pieces,
      clause.ignoresSpacing.values_collapse (show startsWord none = true from rfl) text]
  simp only [selectTables, tables, List.flatMap_cons, List.flatMap_nil, names]

end Keyword
end TableReach
