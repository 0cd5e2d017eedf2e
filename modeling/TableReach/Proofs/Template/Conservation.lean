import TableReach.Proofs.Template.Filler
import TableReach.Proofs.Template.Passes

/-!
# What repairs keep

Every rule of repair keeps the substance of the text around each of its matches, and no
word grows together with what takes the place of a match.  So repairing keeps the
substance of every text.
-/

namespace TableReach
namespace Template

open Text

theorem check?_eq_some_iff
    {condition : Bool}
    {done : Unit} : check? condition = some done ↔ condition = true := by
  simp [check?]

/-- The text behind a keyword and blanks is a shorter end of the text. -/
theorem afterKeywordAndBlanks?_suffix
    {word text rest : List Char}
    (found : afterKeywordAndBlanks? word text = some rest) :
    rest <:+ text ∧ rest.length < text.length := by
  obtain ⟨next, behindWord, behindBlanks⟩ := Option.bind_eq_some_iff.mp found
  have suffix := afterKeyword?_suffix behindWord
  refine ⟨(afterBlanks?_suffix behindBlanks).trans suffix, ?_⟩
  obtain ⟨character, others, _, rfl, rfl⟩ := exists_of_afterBlanks? behindBlanks
  have trimmed : (trimLeft others).length ≤ others.length := (List.dropWhile_suffix _).length_le
  have longer : others.length + 1 ≤ text.length := suffix.length_le
  omega

/-- The text behind a clause is an end of the text. -/
theorem afterClause?_suffix
    {text rest : List Char}
    (found : RepairRule.afterClause? text = some rest) : rest <:+ text := by
  have two {first second : List Char}
      (found : (afterKeywordAndBlanks? first text).bind (afterKeyword? second) = some rest) :
      rest <:+ text := by
    obtain ⟨next, behindFirst, behindSecond⟩ := Option.bind_eq_some_iff.mp found
    exact (afterKeyword?_suffix behindSecond).trans (afterKeywordAndBlanks?_suffix behindFirst).1
  simp only [RepairRule.afterClause?, Option.orElse_eq_orElse, Option.orElse_eq_or,
    Option.or_eq_some_iff] at found
  rcases found with order | ⟨_, group | ⟨_, having | ⟨_, limit⟩⟩⟩
  · exact two order
  · exact two group
  · exact afterKeyword?_suffix having
  · exact afterKeyword?_suffix limit

/-- The text behind the end of a list is an end of the text. -/
theorem afterListEnd?_suffix
    {text rest : List Char}
    (found : RepairRule.afterListEnd? text = some rest) : rest <:+ text := by
  have clause {word : List Char}
      (found : ∃ next, afterKeyword? word text = some next ∧
        ∃ done, check? (endsWord next) = some done ∧ some next = some rest) : rest <:+ text := by
    obtain ⟨next, behindWord, _, _, same⟩ := found
    exact Option.some_inj.mp same ▸ afterKeyword?_suffix behindWord
  simp only [RepairRule.afterListEnd?, Option.bind_eq_bind, Option.orElse_eq_orElse,
    Option.orElse_eq_or, Option.or_eq_some_iff, Option.bind_eq_some_iff] at found
  rcases found with behindFrom | ⟨_, behindWhere | ⟨_, bracket | ⟨_, ending⟩⟩⟩
  · exact clause behindFrom
  · exact clause behindWhere
  · exact afterExact?_eq_some_iff.mp bracket ▸ List.suffix_append _ _
  · obtain ⟨_, _, rfl⟩ := Option.map_eq_some_iff.mp ending
    exact List.nil_suffix

/-- The last character in front of `rest` stands in a word. -/
def EndsInWord (text rest : List Char) : Prop :=
  ∃ start last, text = start ++ last :: rest ∧ isWord last = true

theorem EndsInWord.of_suffix
    {text next rest : List Char}
    (suffix : next <:+ text)
    (ends : EndsInWord next rest) : EndsInWord text rest := by
  obtain ⟨before, rfl⟩ := suffix
  obtain ⟨start, last, rfl, letter⟩ := ends
  exact ⟨before ++ start, last, (List.append_assoc _ _ _).symm, letter⟩

/-- A keyword that is filler ends in a word. -/
theorem endsInWord_of_afterKeyword?
    {word text rest : List Char}
    (filler : word ∈ fillerWords)
    (found : afterKeyword? word text = some rest) : EndsInWord text rest := by
  obtain ⟨start, rfl, rfl⟩ := afterKeyword?_eq_some_iff.mp found
  obtain ⟨something, capitals⟩ := isUpper_of_mem_fillerWords _ filler
  rcases List.eq_nil_or_concat' start with rfl | ⟨others, last, rfl⟩
  · exact absurd rfl something
  · refine ⟨others, last, List.append_assoc _ _ _, ?_⟩
    exact isWord_of_fold (List.all_eq_true.mp capitals _ (List.mem_map_of_mem (by simp)))

/-- The match of a rule at the start of `text` ends in front of `rest`.  It is mended if `mend`
takes the place of what stands in front of `next`. -/
structure Mends (before : Option Char) (text mend next rest : List Char) : Prop where
  /-- What is kept is an end of the text. -/
  next_suffix : next <:+ text
  /-- The match ends in what is kept. -/
  rest_suffix : rest <:+ next
  /-- The match holds something. -/
  shorter : rest.length < text.length
  /-- The substance is kept. -/
  substance_eq : substance (mend ++ next) = substance text
  /-- No word runs on into the match, before it is mended or after. -/
  seam : startsWord before = true ∨ endsWord text = true ∧ endsWord (mend ++ next) = true
  /-- If no word runs on from the match then none runs on from what takes its place. -/
  edge : rest = [] ∨ EndsInWord text rest ∨ startsWord (mend.getLast?.or before) = true

/-- What a rule finds is a mended match. -/
def IsMended (before : Option Char) (text replacement rest : List Char) : Prop :=
  ∃ mend next, replacement = mend ++ consumed next rest ∧ Mends before text mend next rest

/-- Filler that is passed may be replaced by other filler. -/
theorem Mends.of_passes
    {before : Option Char}
    {text mend next rest : List Char}
    (passes : Passes text next)
    (suffix : rest <:+ next)
    (nothing : substance mend = [])
    (inner : IsSeam mend next)
    (seam : startsWord before = true ∨ endsWord text = true ∧ endsWord (mend ++ next) = true)
    (edge : rest = [] ∨ EndsInWord text rest ∨ startsWord (mend.getLast?.or before) = true) :
    Mends before text mend next rest where
  next_suffix := passes.suffix
  rest_suffix := suffix
  shorter := Nat.lt_of_le_of_lt suffix.length_le passes.shorter
  substance_eq := (substance_append_of_filler nothing inner).trans passes.substance_eq
  seam := seam
  edge := edge

namespace IsMended

variable
  {before : Option Char}
  {text mend next rest : List Char}

theorem of_passes
    (passes : Passes text rest)
    (nothing : substance mend = [])
    (inner : IsSeam mend rest)
    (seam : startsWord before = true ∨ endsWord text = true ∧ endsWord (mend ++ rest) = true)
    (edge : rest = [] ∨ EndsInWord text rest ∨ startsWord (mend.getLast?.or before) = true) :
    IsMended before text mend rest := by
  have whole : consumed rest rest = [] := consumed_append [] rest
  refine ⟨mend, rest, ?_, Mends.of_passes passes (List.suffix_refl rest) nothing inner seam edge⟩
  rw [whole, List.append_nil]

theorem of_duplicate
    {word : List Char}
    (starts : startsWord before = true)
    (passes : Passes text next)
    (filler : word ∈ fillerWords)
    (found : afterKeyword? word next = some rest)
    (ends : endsWord rest = true)
    (nothing : substance mend = []) : IsMended before text mend rest := by
  apply of_passes (passes.trans (Passes.of_afterKeyword? filler found ends)) nothing
  · exact Or.inr ends
  · exact Or.inl starts
  · exact Or.inr (Or.inl ((endsInWord_of_afterKeyword? filler found).of_suffix passes.suffix))

theorem of_atEnd?
    {done : Unit}
    (passes : Passes text next)
    (found : atEnd? (trimLeft next) = some done)
    (nothing : substance mend = [])
    (seam : startsWord before = true ∨ endsWord text = true ∧ endsWord (mend ++ []) = true) :
    IsMended before text mend [] :=
  of_passes (passes.of_atEnd? found) nothing (Or.inr rfl) seam (Or.inl rfl)

variable
  {replacement : List Char}

/-- No word runs on into a match from what was put in front of it, before it is mended or after. -/
theorem seams
    (mended : IsMended before text replacement rest)
    {start : List Char}
    (follows : startsWord before = true → startsWord start.getLast? = true) :
    IsSeam start text ∧ IsSeam start (replacement ++ rest) := by
  obtain ⟨mend, next, rfl, mends⟩ := mended
  have whole : consumed next rest ++ rest = next := by
    obtain ⟨kept, rfl⟩ := mends.rest_suffix
    rw [consumed_append]
  rw [List.append_assoc, whole]
  rcases mends.seam with starts | ⟨ends, endsMended⟩
  · exact ⟨Or.inl (follows starts), Or.inl (follows starts)⟩
  · exact ⟨Or.inr ends, Or.inr endsMended⟩

/-- What takes the place of a match keeps the substance. -/
theorem substance_eq
    (mended : IsMended before text replacement rest) :
    substance (replacement ++ rest) = substance text := by
  obtain ⟨mend, next, rfl, mends⟩ := mended
  have whole : consumed next rest ++ rest = next := by
    obtain ⟨kept, rfl⟩ := mends.rest_suffix
    rw [consumed_append]
  rw [List.append_assoc, whole, mends.substance_eq]

/-- What takes the place of a match keeps the substance, whatever was put in front of it. -/
theorem substance_append
    (mended : IsMended before text replacement rest)
    {start : List Char}
    (follows : startsWord before = true → startsWord start.getLast? = true) :
    substance (start ++ replacement ++ rest) = substance (start ++ text) := by
  obtain ⟨seam, seamMended⟩ := mended.seams follows
  rw [List.append_assoc, Template.substance_append seam, Template.substance_append seamMended,
    mended.substance_eq]

/-- The last character of a match.  Where no word runs on from it, none runs on from what takes the
place of the match. -/
theorem exists_last
    (mended : IsMended before text replacement rest) :
    ∃ taken last, text = taken ++ last :: rest ∧
      (rest = [] ∨
        (startsWord (some last) = true → startsWord (replacement.getLast?.or before) = true)) := by
  obtain ⟨mend, next, rfl, mends⟩ := mended
  have split : ∃ taken last, text = taken ++ last :: rest := by
    obtain ⟨front, rfl⟩ := mends.rest_suffix.trans mends.next_suffix
    rcases List.eq_nil_or_concat' front with rfl | ⟨taken, last, rfl⟩
    · exact absurd mends.shorter (Nat.lt_irrefl _)
    · exact ⟨taken, last, List.append_assoc _ _ _⟩
  rcases mends.edge with ending | ⟨taken, last, whole, letter⟩ | starts
  · obtain ⟨taken, last, whole⟩ := split
    exact ⟨taken, last, whole, Or.inl ending⟩
  · refine ⟨taken, last, whole, Or.inr fun noLetter => ?_⟩
    simp [startsWord, letter] at noLetter
  · obtain ⟨kept, rfl⟩ := mends.rest_suffix
    rw [consumed_append]
    rcases List.eq_nil_or_concat' kept with rfl | ⟨others, last, rfl⟩
    · obtain ⟨taken, last, whole⟩ := split
      refine ⟨taken, last, whole, Or.inr fun _ => ?_⟩
      rwa [List.append_nil]
    · obtain ⟨front, rfl⟩ := mends.next_suffix
      refine ⟨front ++ others, last, by simp, Or.inr fun noLetter => ?_⟩
      rw [← List.append_assoc, List.getLast?_concat]
      exact noLetter

end IsMended

/-- No word runs on from a text if none runs on from its last part. -/
theorem startsWord_getLast?_append
    {before : Option Char}
    {start last : List Char}
    (follows : startsWord before = true → startsWord start.getLast? = true)
    (starts : startsWord (last.getLast?.or before) = true) :
    startsWord (start ++ last).getLast? = true := by
  rw [List.getLast?_append]
  cases ending : last.getLast? with
  | none =>
      rw [ending] at starts
      exact follows starts
  | some character =>
      rw [ending] at starts
      exact starts

namespace RepairRule

variable
  {before : Option Char}
  {text replacement rest : List Char}

/-- A connective in front of everything is left out. -/
theorem isMended_leadingConnective
    (found : leadingConnective.recognize before text = some (replacement, rest)) :
    IsMended before text replacement rest := by
  simp only [recognize, Option.bind_eq_bind, Option.bind_eq_some_iff, check?_eq_some_iff,
    Option.some.injEq, Prod.mk.injEq, exists_const] at found
  obtain ⟨first, next, behindConnective, behind, behindBlanks, rfl, rfl⟩ := found
  obtain rfl := Option.isNone_iff_eq_none.mp first
  apply IsMended.of_passes
    (Passes.of_connectiveAndBlanks behindConnective behindBlanks).of_trimLeft rfl
  · exact Or.inl rfl
  · exact Or.inl rfl
  · exact Or.inr (Or.inr rfl)

/-- Of two connectives one is left. -/
theorem isMended_duplicateConnective
    (found : duplicateConnective.recognize before text = some (replacement, rest)) :
    IsMended before text replacement rest := by
  simp only [recognize, Option.bind_eq_bind, Option.bind_eq_some_iff, check?_eq_some_iff,
    Option.some.injEq, Prod.mk.injEq, exists_const] at found
  obtain ⟨starts, next, behindFirst, second, behindBlanks, behind, behindSecond, ends, rfl, rfl⟩ :=
    found
  obtain ⟨word, filler, behindWord⟩ := exists_of_afterConnective? behindSecond
  exact IsMended.of_duplicate starts (Passes.of_connectiveAndBlanks behindFirst behindBlanks) filler
    behindWord ends (by decide)

/-- Of two `WHERE` one is left. -/
theorem isMended_duplicateWhere
    (found : duplicateWhere.recognize before text = some (replacement, rest)) :
    IsMended before text replacement rest := by
  simp only [recognize, Option.bind_eq_bind, Option.bind_eq_some_iff, check?_eq_some_iff,
    Option.some.injEq, Prod.mk.injEq, exists_const] at found
  obtain ⟨starts, second, behindFirst, behind, behindSecond, ends, rfl, rfl⟩ := found
  exact IsMended.of_duplicate starts (Passes.of_afterKeywordAndBlanks? (by decide) behindFirst)
    (by decide) behindSecond ends (by decide)

/-- A connective behind `WHERE` is left out. -/
theorem isMended_whereConnective
    (found : whereConnective.recognize before text = some (replacement, rest)) :
    IsMended before text replacement rest := by
  simp only [recognize, Option.bind_eq_bind, Option.bind_eq_some_iff, check?_eq_some_iff,
    Option.some.injEq, Prod.mk.injEq, exists_const] at found
  obtain ⟨starts, connective, behindWhere, next, behindConnective, behind, behindBlanks, rfl, rfl⟩ :=
    found
  apply IsMended.of_passes
    ((Passes.of_afterKeywordAndBlanks? (by decide) behindWhere).trans
      (Passes.of_connectiveAndBlanks behindConnective behindBlanks))
  · decide
  · exact Or.inl startsWord_space
  · exact Or.inl starts
  · exact Or.inr (Or.inr startsWord_space)

/-- A connective at the end is left out. -/
theorem isMended_trailingConnective
    (found : trailingConnective.recognize before text = some (replacement, rest)) :
    IsMended before text replacement rest := by
  simp only [recognize, Option.bind_eq_bind, Option.bind_eq_some_iff,
    Option.some.injEq, Prod.mk.injEq] at found
  obtain ⟨connective, behindBlanks, next, behindConnective, _, ending, rfl, rfl⟩ := found
  have passes : Passes text next :=
    (Passes.of_afterBlanks? behindBlanks).trans
      (Passes.of_afterConnective? behindConnective (endsWord_of_atEnd? ending))
  exact IsMended.of_atEnd? passes ending rfl (Or.inr ⟨endsWord_of_afterBlanks? behindBlanks, rfl⟩)

/-- A `WHERE` without a condition is left out. -/
theorem isMended_emptyWhere
    (found : emptyWhere.recognize before text = some (replacement, rest)) :
    IsMended before text replacement rest := by
  simp only [recognize, Option.bind_eq_bind, Option.bind_eq_some_iff, check?_eq_some_iff,
    Option.some.injEq, Prod.mk.injEq, exists_const] at found
  obtain ⟨starts, clause, behindWhere, behind, behindClause, ends, rfl, rfl⟩ := found
  refine ⟨[], clause, rfl, ?_⟩
  apply Mends.of_passes (Passes.of_afterKeywordAndBlanks? (by decide) behindWhere)
    (afterClause?_suffix behindClause) rfl
  · exact Or.inl rfl
  · exact Or.inl starts
  · exact Or.inr (Or.inr starts)

/-- A `WHERE` at the end is left out. -/
theorem isMended_trailingWhere
    (found : trailingWhere.recognize before text = some (replacement, rest)) :
    IsMended before text replacement rest := by
  simp only [recognize, Option.bind_eq_bind, Option.bind_eq_some_iff, check?_eq_some_iff,
    Option.some.injEq, Prod.mk.injEq, exists_const, Bool.or_eq_true, decide_eq_true_eq] at found
  obtain ⟨starts, next, behindWhere, _, ending, rfl, rfl⟩ := found
  have passes : Passes text next :=
    (Passes.of_afterKeyword? (by decide) behindWhere (endsWord_of_atEnd? ending)).of_trimLeft
  apply IsMended.of_atEnd? passes ending rfl
  rcases starts with trimmed | starts
  · refine Or.inr ⟨endsWord_of_startsBlank ?_, rfl⟩
    by_contra letter
    rw [trimLeft_of_startsBlank (Bool.eq_false_iff.mpr letter)] at trimmed
    omega
  · exact Or.inl starts

/-- A comma in front of no column is left out. -/
theorem isMended_danglingComma
    (found : danglingComma.recognize before text = some (replacement, rest)) :
    IsMended before text replacement rest := by
  simp only [recognize, Option.bind_eq_bind, Option.bind_eq_some_iff,
    Option.some.injEq, Prod.mk.injEq] at found
  obtain ⟨next, behindComma, behind, behindList, rfl, rfl⟩ := found
  refine ⟨[' '], trimLeft next, rfl, ?_⟩
  apply Mends.of_passes (Passes.of_comma behindComma).trimLeft (afterListEnd?_suffix behindList)
  · decide
  · exact Or.inl startsWord_space
  · have comma : startsWord (some ',') = true := by decide
    rw [afterExact?_eq_some_iff.mp behindComma]
    exact Or.inr ⟨comma, startsWord_space⟩
  · exact Or.inr (Or.inr startsWord_space)

/-- A connective behind the name of a table gets a condition in front of it. -/
theorem isMended_fromConnective
    (found : fromConnective.recognize before text = some (replacement, rest)) :
    IsMended before text replacement rest := by
  simp only [recognize, Option.bind_eq_bind, Option.bind_eq_some_iff, check?_eq_some_iff,
    Option.some.injEq, Prod.mk.injEq, exists_const] at found
  obtain ⟨starts, table, behindFrom, _, _, next, behindBlanks, behind, behindConnective, _, rfl,
    rfl⟩ := found
  have parts : table.takeWhile isNameCharacter ++ table.dropWhile isNameCharacter = table :=
    List.takeWhile_append_dropWhile
  generalize table.takeWhile isNameCharacter = name at parts
  generalize table.dropWhile isNameCharacter = after at parts behindBlanks ⊢
  have passes := Passes.of_blanksAndWhere behindBlanks
  generalize (afterKeywordAndBlanks? "WHERE".toList next).getD next = connective
    at passes behindConnective ⊢
  obtain ⟨word, _, behindWord⟩ := exists_of_afterConnective? behindConnective
  obtain ⟨suffix, shorter⟩ := afterKeywordAndBlanks?_suffix behindFrom
  have inTable : after <:+ table := parts ▸ List.suffix_append name after
  have inConnective : behind <:+ connective := afterKeyword?_suffix behindWord
  refine ⟨"FROM ".toList ++ consumed table after ++ " WHERE 1=1 ".toList, connective, rfl, ?_⟩
  exact
    { next_suffix := passes.suffix.trans (inTable.trans suffix)
      rest_suffix := inConnective
      shorter := by
        have behindLe := inConnective.length_le
        have connectiveLe := passes.suffix.length_le
        have afterLe := inTable.length_le
        omega
      substance_eq := by
        rw [substance_of_afterFrom behindFrom, ← parts, consumed_append, substance_from_where,
          substance_append (Or.inr (endsWord_of_afterBlanks? behindBlanks)), passes.substance_eq]
      seam := Or.inl starts
      edge := by
        rw [List.getLast?_append]
        exact Or.inr (Or.inr startsWord_space) }

/-- A `FROM` in front of everything gets a `SELECT` in front of it. -/
theorem isMended_bareFrom
    (found : bareFrom.recognize before text = some (replacement, rest)) :
    IsMended before text replacement rest := by
  simp only [recognize, Option.bind_eq_bind, Option.bind_eq_some_iff, check?_eq_some_iff,
    Option.some.injEq, Prod.mk.injEq, exists_const] at found
  obtain ⟨first, table, behindFrom, _, _, rfl, rfl⟩ := found
  obtain rfl := Option.isNone_iff_eq_none.mp first
  have trimmed : trimLeft text <:+ text := List.dropWhile_suffix _
  have dropped : table.drop 1 <:+ table := List.drop_suffix 1 table
  obtain ⟨suffix, shorter⟩ := afterKeywordAndBlanks?_suffix behindFrom
  have nothing : substance "SELECT * ".toList = [] := by decide
  refine ⟨"SELECT * ".toList, trimLeft text, rfl, ?_⟩
  exact
    { next_suffix := trimmed
      rest_suffix := dropped.trans suffix
      shorter := by
        have clauseLe := trimmed.length_le
        have droppedLe := dropped.length_le
        omega
      substance_eq :=
        (substance_append_of_filler nothing (Or.inl startsWord_space)).trans
          (substance_congr (atoms_trimLeft text))
      seam := Or.inl rfl
      edge := Or.inr (Or.inr startsWord_space) }

/-- A `SELECT` alone gets a column. -/
theorem isMended_bareSelect
    (found : bareSelect.recognize before text = some (replacement, rest)) :
    IsMended before text replacement rest := by
  simp only [recognize, Option.bind_eq_bind, Option.bind_eq_some_iff, check?_eq_some_iff,
    Option.some.injEq, Prod.mk.injEq, exists_const] at found
  obtain ⟨first, next, behindSelect, _, ending, rfl, rfl⟩ := found
  obtain rfl := Option.isNone_iff_eq_none.mp first
  have passes : Passes text next :=
    (Passes.of_afterKeyword? (by decide) behindSelect (endsWord_of_atEnd? ending)).of_trimLeft
  exact IsMended.of_atEnd? passes ending (by decide) (Or.inl rfl)

/-- Every rule mends what it finds. -/
theorem isMended_recognize
    {rule : RepairRule}
    (found : rule.recognize before text = some (replacement, rest)) :
    IsMended before text replacement rest := by
  cases rule with
  | leadingConnective => exact isMended_leadingConnective found
  | duplicateConnective => exact isMended_duplicateConnective found
  | duplicateWhere => exact isMended_duplicateWhere found
  | whereConnective => exact isMended_whereConnective found
  | trailingConnective => exact isMended_trailingConnective found
  | emptyWhere => exact isMended_emptyWhere found
  | trailingWhere => exact isMended_trailingWhere found
  | danglingComma => exact isMended_danglingComma found
  | fromConnective => exact isMended_fromConnective found
  | bareFrom => exact isMended_bareFrom found
  | bareSelect => exact isMended_bareSelect found

/-- What holds of a text with one match of a rule mended holds of the text with all of them mended,
where it can be chained.  `Relates new old` is what is to hold; `start` is what was done before the
match. -/
theorem replaceAll_induction
    {rule : RepairRule}
    (Relates : List Char → List Char → Prop)
    (refl : ∀ text, Relates text text)
    (trans : ∀ {first second third}, Relates first second → Relates second third →
      Relates first third)
    (mended : ∀ {before text replacement rest start},
      rule.recognize before text = some (replacement, rest) →
      (before = none → start = []) →
      (startsWord before = true → startsWord start.getLast? = true) →
      Relates (start ++ replacement ++ rest) (start ++ text))
    (text : List Char) : Relates (replaceAll rule.recognize text) text := by
  -- The induction is on the length of the text: behind a match the search goes on with what is left.
  -- What is done is moved to the start, behind which no word runs on unless the search sees one.
  have behind (before : Option Char) (text start : List Char)
      (opens : before = none → start = [])
      (follows : startsWord before = true → startsWord start.getLast? = true) :
      Relates (start ++ Piece.splice (piecesFrom rule.recognize before 0 text)) (start ++ text) := by
    induction size : text.length using Nat.strong_induction_on generalizing before text start with
    | _ size inductionHypothesis =>
        subst size
        cases text with
        | nil => exact refl _
        | cons character others =>
            cases found : rule.recognize before (character :: others) with
            | none =>
                rw [piecesFrom, found, Piece.splice_kept, List.append_cons,
                  List.append_cons start character others]
                refine inductionHypothesis others.length (Nat.lt_succ_self _) _ _ _ ?_ ?_ rfl
                · rintro ⟨⟩
                · intro starts
                  rwa [List.getLast?_concat]
            | some result =>
                have once := mended found opens follows
                obtain ⟨taken, last, whole, edge⟩ := (isMended_recognize found).exists_last
                rw [piecesFrom_of_found whole found, Piece.splice_found, ← List.append_assoc]
                rcases edge with ending | edge
                · rw [ending] at once ⊢
                  exact once
                · refine trans (inductionHypothesis result.2.length ?_ _ _ _ ?_ ?_ rfl) once
                  · rw [whole, List.length_append, List.length_cons]
                    omega
                  · rintro ⟨⟩
                  · intro starts
                    exact startsWord_getLast?_append follows (edge starts)
  exact behind none text [] (fun _ => rfl) fun starts => starts

/-- A rule keeps the substance of a text. -/
theorem substance_of_mend?
    {rule : RepairRule}
    {text changed : List Char}
    (mended : rule.mend? text = some changed) : substance changed = substance text := by
  rw [← (mend?_eq_some_iff.mp mended).1]
  refine replaceAll_induction (fun new old => substance new = substance old) (fun _ => rfl)
    Eq.trans ?_ text
  intro before text replacement rest start found _ follows
  exact (isMended_recognize found).substance_append follows

end RepairRule

namespace Repaired

/-- Trying a rule keeps the substance. -/
theorem substance_step
    (state : Repaired)
    (rule : RepairRule) : substance (state.step rule).text = substance state.text := by
  unfold step
  split
  · rfl
  · next changed mended =>
      exact (substance_congr (atoms_collapse changed)).trans (RepairRule.substance_of_mend? mended)

/-- A pass keeps the substance. -/
theorem substance_pass
    (state : Repaired) : substance state.pass.text = substance state.text := by
  unfold pass
  induction RepairRule.all generalizing state with
  | nil => rfl
  | cons rule rules inductionHypothesis =>
      rw [List.foldl_cons, inductionHypothesis, substance_step]

/-- Passes keep the substance. -/
theorem substance_passes
    (count : Nat)
    (state : Repaired) : substance (passes count state).text = substance state.text := by
  induction count generalizing state with
  | zero => rfl
  | succ count inductionHypothesis =>
      rw [passes, inductionHypothesis, substance_pass]

end Repaired

/-- Repairing keeps the substance of every text: besides the filler, the same atoms stand in the same
order, but for the case of their letters. -/
theorem substance_repair
    (text : List Char) : substance (repair text).text = substance text := by
  rw [repair, Repaired.substance_passes]

example :
    String.ofList (repair "select a, from t where and b = 1 or".toList).text =
      "select a from t WHERE b = 1" := by
  decide +kernel

end Template
end TableReach
