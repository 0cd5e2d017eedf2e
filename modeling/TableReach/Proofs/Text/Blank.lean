import TableReach.Text.Blank
import TableReach.Text.Letter

/-!
# Laws of blanks

There are finitely many blanks, and none of them is a letter, a digit or a word
character.  A text on one line is its own line.
-/

namespace TableReach
namespace Text

/-- Every blank. -/
def blanks : List Char :=
  [0x9, 0xA, 0xB, 0xC, 0xD, 0x20, 0x85, 0xA0, 0x1680, 0x2000, 0x2001, 0x2002, 0x2003, 0x2004,
    0x2005, 0x2006, 0x2007, 0x2008, 0x2009, 0x200A, 0x2028, 0x2029, 0x202F, 0x205F,
    0x3000].map Char.ofNat

/-- The blanks are the characters in the list. -/
theorem mem_blanks
    {character : Char}
    (blank : isBlank character = true) : character ∈ blanks := by
  have code : Char.ofNat character.toNat = character := Char.ofNat_toNat character
  rw [← code, blanks]
  apply List.mem_map_of_mem
  simp only [isBlank, Bool.or_eq_true, Bool.and_eq_true, decide_eq_true_eq, beq_iff_eq] at blank
  simp only [List.mem_cons, List.not_mem_nil, or_false]
  -- One case for each range of codes; all of them at once are slow to decide.
  rcases blank with (((((((((range | same) | same) | same) | same) | range) | same) | same) |
    same) | same) | same
  all_goals omega

theorem eq_false_of_isBlank
    (property : Char → Bool)
    {character : Char}
    (fails : blanks.any property = false)
    (blank : isBlank character = true) : property character = false :=
  Bool.eq_false_iff.mpr (List.any_eq_false.mp fails character (mem_blanks blank))

theorem isAlphabetic_of_isBlank
    {character : Char}
    (blank : isBlank character = true) : isAlphabetic character = false :=
  eq_false_of_isBlank _ (by decide +kernel) blank

theorem isNumeric_of_isBlank
    {character : Char}
    (blank : isBlank character = true) : isNumeric character = false :=
  eq_false_of_isBlank _ (by decide +kernel) blank

theorem isDigit_of_isBlank
    {character : Char}
    (blank : isBlank character = true) : character.isDigit = false :=
  eq_false_of_isBlank _ (by decide) blank

theorem isWord_of_isBlank
    {character : Char}
    (blank : isBlank character = true) : isWord character = false :=
  eq_false_of_isBlank _ (by decide +kernel) blank

theorem startsWord_of_isBlank
    {character : Char}
    (blank : isBlank character = true) : startsWord (some character) = true := by
  rw [startsWord, Option.map_some, isWord_of_isBlank blank]
  rfl

theorem startsWord_space : startsWord (some ' ') = true :=
  startsWord_of_isBlank (by decide)

/-- A text starts with a blank. -/
def startsBlank (text : List Char) : Bool :=
  (text.head?.map isBlank).getD false

theorem squeeze_cons_of_not_isBlank
    {character : Char}
    (rest : List Char)
    (letter : isBlank character = false) :
    squeeze (character :: rest) = character :: squeeze rest := by
  simp [squeeze, letter]

theorem squeeze_cons_of_isBlank
    {character : Char}
    (rest : List Char)
    (blank : isBlank character = true) :
    squeeze (character :: rest) =
      if startsBlank rest then squeeze rest else ' ' :: squeeze rest := by
  rw [squeeze, if_pos blank]
  rfl

/-- Trimming the start and squeezing can be exchanged. -/
theorem trimLeft_squeeze
    (text : List Char) : trimLeft (squeeze text) = squeeze (trimLeft text) := by
  unfold trimLeft
  induction text with
  | nil => rfl
  | cons character rest inductionHypothesis =>
      by_cases blank : isBlank character = true
      · rw [squeeze_cons_of_isBlank rest blank, List.dropWhile_cons_of_pos blank]
        split
        · exact inductionHypothesis
        · rw [List.dropWhile_cons_of_pos rfl]
          exact inductionHypothesis
      · rw [List.dropWhile_cons_of_neg blank]
        rw [Bool.not_eq_true] at blank
        rw [squeeze_cons_of_not_isBlank rest blank, List.dropWhile_cons_of_neg (by simp [blank])]

/-- A text on one line: squeezed, with nothing but the blanks at its end left out. -/
def line (text : List Char) : List Char :=
  trimRight (squeeze text)

theorem collapse_eq_line_trimLeft
    (text : List Char) : collapse text = line (trimLeft text) := by
  rw [collapse, trim, trimLeft_squeeze, line]

theorem trimRight_cons_of_not_isBlank
    {character : Char}
    (rest : List Char)
    (letter : isBlank character = false) :
    trimRight (character :: rest) = character :: trimRight rest := by
  rw [trimRight]
  split
  · next nothing => simp [letter, nothing]
  · rfl

theorem trimRight_cons_of_isBlank
    {character : Char}
    (rest : List Char)
    (blank : isBlank character = true) :
    trimRight (character :: rest) =
      if trimRight rest = [] then [] else character :: trimRight rest := by
  rw [trimRight]
  split
  · next nothing => simp [blank, nothing]
  · next something => rw [if_neg something]

theorem line_cons_of_not_isBlank
    {character : Char}
    (rest : List Char)
    (letter : isBlank character = false) :
    line (character :: rest) = character :: line rest := by
  rw [line, squeeze_cons_of_not_isBlank rest letter, trimRight_cons_of_not_isBlank _ letter, line]

theorem line_cons_of_isBlank
    {character : Char}
    (rest : List Char)
    (blank : isBlank character = true) :
    line (character :: rest) =
      if startsBlank rest then line rest
      else if line rest = [] then [] else ' ' :: line rest := by
  rw [line, squeeze_cons_of_isBlank rest blank]
  split
  · rfl
  · rw [trimRight_cons_of_isBlank _ rfl, line]

/-- The line of a text is not longer than the text. -/
theorem length_line_le
    (text : List Char) : (line text).length ≤ text.length := by
  induction text with
  | nil => exact Nat.le_refl _
  | cons character rest inductionHypothesis =>
      by_cases blank : isBlank character = true
      · rw [line_cons_of_isBlank rest blank]
        split
        · exact Nat.le_succ_of_le inductionHypothesis
        · split
          · exact Nat.zero_le _
          · exact Nat.succ_le_succ inductionHypothesis
      · rw [Bool.not_eq_true] at blank
        rw [line_cons_of_not_isBlank rest blank]
        exact Nat.succ_le_succ inductionHypothesis

/-- The line of a text that starts with no blank is empty only if the text is. -/
theorem line_eq_nil_iff
    {text : List Char}
    (letter : startsBlank text = false) : line text = [] ↔ text = [] := by
  constructor
  · intro nothing
    cases text with
    | nil => rfl
    | cons character rest =>
        rw [line_cons_of_not_isBlank rest letter] at nothing
        exact nomatch nothing
  · rintro rfl
    rfl

/-- A text that is its own line stays so without its first character, which is a single space if
it is a blank. -/
theorem line_tail
    {character : Char}
    {rest : List Char}
    (same : line (character :: rest) = character :: rest) :
    line rest = rest ∧
      (isBlank character = true → character = ' ' ∧ startsBlank rest = false ∧ rest ≠ []) := by
  by_cases blank : isBlank character = true
  · rw [line_cons_of_isBlank rest blank] at same
    split at same
    · have bound := length_line_le rest
      rw [same, List.length_cons] at bound
      omega
    · next letter =>
        rw [Bool.not_eq_true] at letter
        split at same
        · exact nomatch same
        · next something =>
            obtain ⟨rfl, equal⟩ := List.cons.inj same
            rw [line_eq_nil_iff letter] at something
            exact ⟨equal, fun _ => ⟨rfl, letter, something⟩⟩
  · have letter : isBlank character = false := by simpa using blank
    rw [line_cons_of_not_isBlank rest letter] at same
    exact ⟨(List.cons.inj same).2, fun isBlank => absurd isBlank blank⟩

/-- The end of a text that is its own line is its own line. -/
theorem line_of_append
    {start rest : List Char}
    (same : line (start ++ rest) = start ++ rest) : line rest = rest := by
  induction start with
  | nil => exact same
  | cons character start inductionHypothesis => exact inductionHypothesis (line_tail same).1

theorem eq_space_of_mem
    {text : List Char}
    {character : Char}
    (same : line text = text)
    (present : character ∈ text)
    (blank : isBlank character = true) : character = ' ' := by
  obtain ⟨start, rest, rfl⟩ := List.append_of_mem present
  exact ((line_tail (line_of_append same)).2 blank).1

/-- The blanks of a line are spaces. -/
theorem eq_space_of_mem_line
    {text : List Char}
    {character : Char}
    (present : character ∈ line text)
    (blank : isBlank character = true) : character = ' ' := by
  induction text with
  | nil => exact nomatch present
  | cons first rest inductionHypothesis =>
      by_cases isBlankFirst : isBlank first = true
      · rw [line_cons_of_isBlank rest isBlankFirst] at present
        split at present
        · exact inductionHypothesis present
        · split at present
          · exact nomatch present
          · exact (List.mem_cons.mp present).elim id inductionHypothesis
      · rw [Bool.not_eq_true] at isBlankFirst
        rw [line_cons_of_not_isBlank rest isBlankFirst] at present
        rcases List.mem_cons.mp present with rfl | later
        · rw [isBlankFirst] at blank
          exact nomatch blank
        · exact inductionHypothesis later

theorem eq_space_of_mem_collapse
    {text : List Char}
    {character : Char}
    (present : character ∈ collapse text)
    (blank : isBlank character = true) : character = ' ' := by
  rw [collapse_eq_line_trimLeft] at present
  exact eq_space_of_mem_line present blank

/-- A trimmed text starts with no blank. -/
theorem startsBlank_trimLeft
    (text : List Char) : startsBlank (trimLeft text) = false := by
  unfold startsBlank trimLeft
  have first := List.head?_dropWhile_not isBlank text
  cases behind : (text.dropWhile isBlank).head? with
  | none => rfl
  | some character =>
      rw [behind] at first
      simpa using first

theorem trimLeft_of_startsBlank
    {text : List Char}
    (letter : startsBlank text = false) : trimLeft text = text := by
  cases text with
  | nil => rfl
  | cons character rest => exact List.dropWhile_cons_of_neg (Bool.eq_false_iff.mp letter)

theorem trimLeft_cons_of_isBlank
    {character : Char}
    (rest : List Char)
    (blank : isBlank character = true) : trimLeft (character :: rest) = trimLeft rest :=
  List.dropWhile_cons_of_pos blank

theorem trimLeft_append_of_allBlank
    {gap : List Char}
    (blank : allBlank gap = true)
    (rest : List Char) : trimLeft (gap ++ rest) = trimLeft rest :=
  List.dropWhile_append_of_pos (List.all_eq_true.mp blank)

/-- The blanks at the start of a text are squeezed to one space. -/
theorem squeeze_of_startsBlank
    {text : List Char}
    (blank : startsBlank text = true) : squeeze text = ' ' :: squeeze (trimLeft text) := by
  induction text with
  | nil => cases blank
  | cons character rest inductionHypothesis =>
      rw [squeeze_cons_of_isBlank rest blank, trimLeft_cons_of_isBlank rest blank]
      split
      · next more => exact inductionHypothesis more
      · next letter => rw [trimLeft_of_startsBlank (Bool.eq_false_iff.mpr letter)]

theorem collapse_of_startsBlank
    {text : List Char}
    (letter : startsBlank text = false) : collapse text = line text := by
  rw [collapse_eq_line_trimLeft, trimLeft_of_startsBlank letter]

theorem collapse_cons_of_isBlank
    {character : Char}
    (rest : List Char)
    (blank : isBlank character = true) : collapse (character :: rest) = collapse rest := by
  rw [collapse_eq_line_trimLeft, trimLeft_cons_of_isBlank rest blank, collapse_eq_line_trimLeft]

/-- A collapsed text starts with no blank. -/
theorem startsBlank_collapse
    (text : List Char) : startsBlank (collapse text) = false := by
  rw [collapse_eq_line_trimLeft]
  have letter := startsBlank_trimLeft text
  cases equal : trimLeft text with
  | nil => rfl
  | cons character rest =>
      rw [equal] at letter
      rw [line_cons_of_not_isBlank rest letter]
      exact letter

theorem line_of_collapse
    {text : List Char}
    (same : collapse text = text) : line text = text := by
  have letter := startsBlank_collapse text
  rw [same] at letter
  rw [← collapse_of_startsBlank letter, same]

/-- The line of a text is the collapsed text, with a space where the text starts with blanks. -/
theorem line_cases
    (text : List Char) : line text = collapse text ∨ line text = ' ' :: collapse text := by
  induction text with
  | nil => exact Or.inl rfl
  | cons character rest inductionHypothesis =>
      by_cases blank : isBlank character = true
      · rw [collapse_cons_of_isBlank rest blank, line_cons_of_isBlank rest blank]
        split
        · exact inductionHypothesis
        · next letter =>
            rw [Bool.not_eq_true] at letter
            rw [collapse_of_startsBlank letter]
            split
            · next nothing => exact Or.inl nothing.symm
            · exact Or.inr rfl
      · have letter : startsBlank (character :: rest) = false := Bool.eq_false_iff.mpr blank
        exact Or.inl (collapse_of_startsBlank letter).symm

theorem dropWhile_append_cons
    {property : Char → Bool}
    {character : Char}
    (stops : property character = false)
    (start rest : List Char) :
    (start ++ character :: rest).dropWhile property =
      start.dropWhile property ++ character :: rest := by
  rw [List.dropWhile_append, List.dropWhile_cons_of_neg (by simp [stops])]
  split
  · next nothing => rw [List.isEmpty_iff.mp nothing, List.nil_append]
  · rfl

section Lines

variable
  {character : Char}
  (letter : isBlank character = false)
  (start rest : List Char)

include letter

theorem squeeze_append_cons :
    squeeze (start ++ character :: rest) = squeeze start ++ character :: squeeze rest := by
  induction start with
  | nil => exact squeeze_cons_of_not_isBlank rest letter
  | cons first start inductionHypothesis =>
      by_cases blank : isBlank first = true
      · have same : startsBlank (start ++ character :: rest) = startsBlank start := by
          cases start with
          | nil => exact letter
          | cons second start => rfl
        rw [List.cons_append, squeeze_cons_of_isBlank _ blank, squeeze_cons_of_isBlank _ blank, same,
          inductionHypothesis]
        split <;> rfl
      · rw [Bool.not_eq_true] at blank
        rw [List.cons_append, squeeze_cons_of_not_isBlank _ blank,
          squeeze_cons_of_not_isBlank _ blank, inductionHypothesis, List.cons_append]

theorem trimRight_append_cons :
    trimRight (start ++ character :: rest) = start ++ character :: trimRight rest := by
  induction start with
  | nil => exact trimRight_cons_of_not_isBlank rest letter
  | cons first start inductionHypothesis =>
      rw [List.cons_append, trimRight, inductionHypothesis]
      split
      · next nothing => simp at nothing
      · rfl

/-- What stands before a character that is not blank is put on one line apart from what stands behind
it. -/
theorem collapse_append_cons :
    collapse (start ++ character :: rest) =
      trimLeft (squeeze start) ++ character :: line rest := by
  rw [collapse, squeeze_append_cons letter, trim, trimLeft, dropWhile_append_cons letter,
    trimRight_append_cons letter, trimLeft, line]

end Lines

end Text
end TableReach
