import TableReach.Sql.Dialect
import TableReach.Proofs.Text.Blank

/-!
# Texts that differ in their blanks

A text is respaced when every run of blanks in it becomes a single space; at the
end of the text the run may be left out.  Blanks that a dialect takes for
characters of a name do not take part.
-/

namespace TableReach
namespace Sql

open Text

/-- A blank that is no character of a name, so that it stands between tokens. -/
def Dialect.divides (dialect : Dialect) (character : Char) : Bool :=
  isBlank character && !dialect.startsName character

/-- The second text is the first one respaced; `trims` says whether the blanks at the end may be
left out. -/
inductive Respaced
    (dialect : Dialect)
    (trims : Bool) : List Char → List Char → Prop
  /-- Nothing. -/
  | nil : Respaced dialect trims [] []
  /-- A character that is not blank stays. -/
  | letter
      {character : Char}
      {rest respaced : List Char}
      (notBlank : isBlank character = false)
      (others : Respaced dialect trims rest respaced) :
      Respaced dialect trims (character :: rest) (character :: respaced)
  /-- The last blank of a run becomes a space. -/
  | space
      {character : Char}
      {rest respaced : List Char}
      (divides : dialect.divides character = true)
      (last : startsBlank rest = false)
      (others : Respaced dialect trims rest respaced) :
      Respaced dialect trims (character :: rest) (' ' :: respaced)
  /-- The blanks before it vanish. -/
  | run
      {character : Char}
      {rest respaced : List Char}
      (divides : dialect.divides character = true)
      (more : startsBlank rest = true)
      (others : Respaced dialect trims rest respaced) :
      Respaced dialect trims (character :: rest) respaced
  /-- At the end the last one may vanish too. -/
  | ending
      {character : Char}
      (divides : dialect.divides character = true)
      (allowed : trims = true) :
      Respaced dialect trims [character] []

theorem Dialect.isBlank_of_divides
    {dialect : Dialect}
    {character : Char}
    (divides : dialect.divides character = true) : isBlank character = true := by
  rw [Dialect.divides, Bool.and_eq_true] at divides
  exact divides.1

theorem Dialect.divides_space (dialect : Dialect) : dialect.divides ' ' = true := by
  cases dialect <;> decide

/-- Blanks that divide are no characters of names. -/
theorem Dialect.continuesName_of_divides
    {dialect : Dialect}
    {character : Char}
    (divides : dialect.divides character = true) : dialect.continuesName character = false := by
  have blank := isBlank_of_divides divides
  have alphabetic := isAlphabetic_of_isBlank blank
  have others : (character.isDigit || character == '@' || character == '$' || character == '#' ||
      character == '_') = false :=
    eq_false_of_isBlank (fun character => character.isDigit || character == '@' ||
      character == '$' || character == '#' || character == '_') (by decide) blank
  simp only [Bool.or_eq_false_iff] at others
  rw [Dialect.divides, blank, Bool.true_and, Bool.not_eq_true'] at divides
  cases dialect with
  | generic => simp [continuesName, alphabetic, others]
  | mysql => simp [continuesName, divides, others]
  | postgresql => simp [continuesName, divides, others]
  | sqlite => simp [continuesName, divides, others]

namespace Respaced

variable
  {dialect : Dialect}
  {trims : Bool}
  {text respaced : List Char}

theorem eq_nil (related : Respaced dialect trims [] respaced) : respaced = [] := by
  cases related
  rfl

/-- What follows a character that is not blank is respaced on its own. -/
theorem exists_of_letter
    {character : Char}
    {rest : List Char}
    (notBlank : isBlank character = false)
    (related : Respaced dialect trims (character :: rest) respaced) :
    ∃ others, respaced = character :: others ∧ Respaced dialect trims rest others := by
  have undivided : dialect.divides character ≠ true := by
    simp [Dialect.divides, notBlank]
  cases related with
  | letter _ others => exact ⟨_, rfl, others⟩
  | space divides => exact absurd divides undivided
  | run divides => exact absurd divides undivided
  | ending divides => exact absurd divides undivided

/-- What follows the last blank of a run is respaced on its own. -/
theorem exists_of_space
    {character : Char}
    {rest : List Char}
    (blank : isBlank character = true)
    (last : startsBlank rest = false)
    (something : rest ≠ [])
    (related : Respaced dialect trims (character :: rest) respaced) :
    ∃ others, respaced = ' ' :: others ∧ Respaced dialect trims rest others := by
  cases related with
  | letter notBlank =>
      rw [blank] at notBlank
      exact nomatch notBlank
  | space _ _ others => exact ⟨_, rfl, others⟩
  | run _ more =>
      rw [last] at more
      exact nomatch more
  | ending => exact absurd rfl something

/-- Where a text starts with a blank, the respaced one starts with a space or is at its end. -/
theorem head?_of_startsBlank
    (related : Respaced dialect trims text respaced)
    (blank : startsBlank text = true) :
    respaced.head? = some ' ' ∨ (respaced = [] ∧ trims = true) := by
  induction related with
  | nil => exact nomatch blank
  | letter notBlank =>
      rw [startsBlank, List.head?_cons, Option.map_some, Option.getD_some, notBlank] at blank
      exact nomatch blank
  | space => exact Or.inl rfl
  | run _ more _ inductionHypothesis => exact inductionHypothesis more
  | ending _ allowed => exact Or.inr ⟨rfl, allowed⟩

/-- A text that starts with no blank stays so. -/
theorem startsBlank_eq_false
    (related : Respaced dialect trims text respaced)
    (letter : startsBlank text = false) : startsBlank respaced = false := by
  cases text with
  | nil =>
      rw [related.eq_nil]
      rfl
  | cons character rest =>
      obtain ⟨others, rfl, _⟩ := related.exists_of_letter letter
      exact letter

/-- Blanks at the start are a single space in the respaced text, or it is at its end. -/
theorem trimLeft_cases
    (related : Respaced dialect trims text respaced)
    (blank : startsBlank text = true) :
    (∃ others, respaced = ' ' :: others ∧ startsBlank others = false ∧
        Respaced dialect trims (trimLeft text) others) ∨
      (respaced = [] ∧ trimLeft text = []) := by
  induction related with
  | nil => exact nomatch blank
  | letter notBlank => exact absurd blank (Bool.eq_false_iff.mp notBlank)
  | space divides last others =>
      refine Or.inl ⟨_, rfl, others.startsBlank_eq_false last, ?_⟩
      rw [trimLeft_cons_of_isBlank _ (Dialect.isBlank_of_divides divides),
        trimLeft_of_startsBlank last]
      exact others
  | run divides more _ inductionHypothesis =>
      rw [trimLeft_cons_of_isBlank _ (Dialect.isBlank_of_divides divides)]
      exact inductionHypothesis more
  | ending divides =>
      exact Or.inr ⟨rfl, trimLeft_cons_of_isBlank _ (Dialect.isBlank_of_divides divides)⟩

/-- Two texts start with the same character that is not blank, or neither starts with one. -/
theorem start_cases
    (related : Respaced dialect trims text respaced) :
    (∃ character rest others, isBlank character = false ∧ text = character :: rest ∧
        respaced = character :: others ∧ Respaced dialect trims rest others) ∨
      ((∀ character ∈ text.head?, dialect.divides character = true) ∧
        ∀ character ∈ respaced.head?, character = ' ') := by
  cases related with
  | nil => exact Or.inr ⟨by simp, by simp⟩
  | letter notBlank others => exact Or.inl ⟨_, _, _, notBlank, rfl, rfl, others⟩
  | space divides => exact Or.inr ⟨by simpa using divides, by simp⟩
  | run divides more others =>
      refine Or.inr ⟨by simpa using divides, ?_⟩
      intro first present
      rcases others.head?_of_startsBlank more with space | ⟨nothing, _⟩
      · rw [space] at present
        exact (Option.some_inj.mp present).symm
      · rw [nothing] at present
        exact nomatch present
  | ending divides => exact Or.inr ⟨by simpa using divides, by simp⟩

/-- What stands first in the respaced text and is no space stands first in the text. -/
theorem head?_eq
    {character : Char}
    (related : Respaced dialect trims text respaced)
    (first : respaced.head? = some character)
    (notSpace : character ≠ ' ') : text.head? = some character := by
  rcases related.start_cases with ⟨other, rest, others, _, rfl, rfl, _⟩ | ⟨_, space⟩
  · exact first
  · exact absurd (space character first) notSpace

/-- The longest start of characters of which none is blank is kept, and what follows is respaced
on its own. -/
theorem span
    {property : Char → Bool}
    (fails : ∀ character, dialect.divides character = true → property character = false)
    (related : Respaced dialect trims text respaced) :
    respaced.takeWhile property = text.takeWhile property ∧
      Respaced dialect trims (text.dropWhile property) (respaced.dropWhile property) := by
  induction text generalizing respaced with
  | nil =>
      rw [related.eq_nil]
      exact ⟨rfl, Respaced.nil⟩
  | cons first rest inductionHypothesis =>
      rcases related.start_cases with ⟨_, _, others, _, equal, rfl, othersRelated⟩ | ⟨blank, space⟩
      · obtain ⟨rfl, rfl⟩ := List.cons.inj equal
        by_cases holds : property first = true
        · obtain ⟨same, behind⟩ := inductionHypothesis othersRelated
          rw [List.takeWhile_cons_of_pos holds, List.takeWhile_cons_of_pos holds, same,
            List.dropWhile_cons_of_pos holds, List.dropWhile_cons_of_pos holds]
          exact ⟨rfl, behind⟩
        · rw [List.takeWhile_cons_of_neg holds, List.takeWhile_cons_of_neg holds,
            List.dropWhile_cons_of_neg holds, List.dropWhile_cons_of_neg holds]
          exact ⟨rfl, related⟩
      · have stops := fails first (blank first rfl)
        rw [List.takeWhile_cons_of_neg (by simp [stops]),
          List.dropWhile_cons_of_neg (by simp [stops])]
        cases respaced with
        | nil => exact ⟨rfl, related⟩
        | cons character others =>
            obtain rfl := space character rfl
            have spaceStops := fails ' ' dialect.divides_space
            rw [List.takeWhile_cons_of_neg (by simp [spaceStops]),
              List.dropWhile_cons_of_neg (by simp [spaceStops])]
            exact ⟨rfl, related⟩

/-- A start that is its own line is kept, and what follows is respaced on its own. -/
theorem exists_of_append
    {start rest : List Char}
    (same : line start = start)
    (related : Respaced dialect trims (start ++ rest) respaced) :
    ∃ others, respaced = start ++ others ∧ Respaced dialect trims rest others := by
  induction start generalizing respaced with
  | nil => exact ⟨respaced, rfl, related⟩
  | cons character start inductionHypothesis =>
      obtain ⟨sameTail, whenBlank⟩ := line_tail same
      by_cases blank : isBlank character = true
      · obtain ⟨rfl, letter, something⟩ := whenBlank blank
        have undivided : startsBlank (start ++ rest) = false := by
          cases start with
          | nil => exact absurd rfl something
          | cons first others => exact letter
        obtain ⟨others, rfl, othersRelated⟩ := related.exists_of_space rfl undivided
          (fun nothing => something (List.append_eq_nil_iff.mp nothing).1)
        obtain ⟨behind, rfl, behindRelated⟩ := inductionHypothesis sameTail othersRelated
        exact ⟨behind, rfl, behindRelated⟩
      · rw [Bool.not_eq_true] at blank
        obtain ⟨others, rfl, othersRelated⟩ := related.exists_of_letter blank
        obtain ⟨behind, rfl, behindRelated⟩ := inductionHypothesis sameTail othersRelated
        exact ⟨behind, rfl, behindRelated⟩

/-- The start before a last character that is not blank is respaced on its own. -/
theorem exists_of_concat
    {start : List Char}
    {last : Char}
    (notBlank : isBlank last = false)
    (related : Respaced dialect trims (start ++ [last]) respaced) :
    ∃ others, respaced = others ++ [last] ∧ Respaced dialect trims start others := by
  induction start generalizing respaced with
  | nil =>
      obtain ⟨others, rfl, nothing⟩ := related.exists_of_letter notBlank
      exact ⟨[], by rw [nothing.eq_nil]; rfl, Respaced.nil⟩
  | cons character start inductionHypothesis =>
      have more : startsBlank (start ++ [last]) = startsBlank start := by
        cases start with
        | nil => exact notBlank
        | cons first others => rfl
      cases equal : start ++ [last] with
      | nil => simp at equal
      | cons first rest =>
          rw [List.cons_append, equal] at related
          rw [equal] at inductionHypothesis more
          cases related with
          | letter letter others =>
              obtain ⟨behind, rfl, behindRelated⟩ := inductionHypothesis others
              exact ⟨character :: behind, rfl, Respaced.letter letter behindRelated⟩
          | space divides end_ others =>
              obtain ⟨behind, rfl, behindRelated⟩ := inductionHypothesis others
              exact ⟨' ' :: behind, rfl, Respaced.space divides (more ▸ end_) behindRelated⟩
          | run divides further others =>
              obtain ⟨behind, rfl, behindRelated⟩ := inductionHypothesis others
              exact ⟨behind, rfl, Respaced.run divides (more ▸ further) behindRelated⟩

/-- A character of a respaced text is a space or one of the text that is not blank. -/
theorem mem_cases
    {character : Char}
    (related : Respaced dialect trims text respaced)
    (present : character ∈ respaced) :
    character = ' ' ∨ (character ∈ text ∧ isBlank character = false) := by
  induction related with
  | nil => exact nomatch present
  | letter notBlank _ inductionHypothesis =>
      rcases List.mem_cons.mp present with rfl | later
      · exact Or.inr ⟨List.mem_cons_self, notBlank⟩
      · exact (inductionHypothesis later).imp_right fun found =>
          ⟨List.mem_cons_of_mem _ found.1, found.2⟩
  | space _ _ _ inductionHypothesis =>
      rcases List.mem_cons.mp present with rfl | later
      · exact Or.inl rfl
      · exact (inductionHypothesis later).imp_right fun found =>
          ⟨List.mem_cons_of_mem _ found.1, found.2⟩
  | run _ _ _ inductionHypothesis =>
      exact (inductionHypothesis present).imp_right fun found =>
        ⟨List.mem_cons_of_mem _ found.1, found.2⟩
  | ending => exact nomatch present

/-- A respaced text has no end of a line. -/
theorem dropWhile_newline
    (related : Respaced dialect trims text respaced) :
    respaced.dropWhile (· != '\n') = [] := by
  rw [← List.append_nil respaced, List.dropWhile_append_of_pos, List.dropWhile_nil]
  intro character present
  rw [bne_iff_ne]
  rintro rfl
  rcases related.mem_cases present with space | ⟨_, notBlank⟩
  · exact absurd space (by decide)
  · exact nomatch notBlank

/-- Only blanks vanish. -/
theorem allBlank_of_nil
    (related : Respaced dialect trims text []) : allBlank text = true := by
  generalize empty : ([] : List Char) = nothing at related
  induction related with
  | nil => rfl
  | letter => exact nomatch empty
  | space => exact nomatch empty
  | run divides _ _ inductionHypothesis =>
      rw [allBlank, List.all_cons, Dialect.isBlank_of_divides divides, Bool.true_and]
      exact inductionHypothesis empty
  | ending divides =>
      rw [allBlank, List.all_cons, Dialect.isBlank_of_divides divides]
      rfl

/-- A text whose blanks all divide is respaced to its line. -/
theorem of_line
    (apart : ∀ character ∈ text, isBlank character = true → dialect.divides character = true) :
    Respaced dialect true text (line text) := by
  induction text with
  | nil => exact Respaced.nil
  | cons character rest inductionHypothesis =>
      have others := inductionHypothesis fun other present =>
        apart other (List.mem_cons_of_mem _ present)
      by_cases blank : isBlank character = true
      · have divides := apart character List.mem_cons_self blank
        rw [line_cons_of_isBlank rest blank]
        split
        · next more => exact Respaced.run divides more others
        · next last =>
            rw [Bool.not_eq_true] at last
            split
            · next nothing =>
                rw [(line_eq_nil_iff last).mp nothing]
                exact Respaced.ending divides rfl
            · exact Respaced.space divides last others
      · rw [Bool.not_eq_true] at blank
        rw [line_cons_of_not_isBlank rest blank]
        exact Respaced.letter blank others

end Respaced
end Sql
end TableReach
