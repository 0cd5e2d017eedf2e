import TableReach.Proofs.Text.Blank

/-!
# Words on a line

A text on one line is its words, joined with single spaces.  What holds a space in the
middle stands in such a text only where two words meet.
-/

namespace TableReach
namespace Text

/-- The line of a text that starts with a blank starts with a space, if there is more in it. -/
theorem line_of_startsBlank
    {text : List Char}
    (blank : startsBlank text = true) : line text = [] ∨ ∃ more, line text = ' ' :: more := by
  induction text with
  | nil => exact nomatch blank
  | cons character rest inductionHypothesis =>
      rw [line_cons_of_isBlank rest blank]
      split
      · next more => exact inductionHypothesis more
      · split
        · exact Or.inl rfl
        · exact Or.inr ⟨_, rfl⟩

theorem words_ne_nil
    {character : Char}
    (rest : List Char)
    (notBlank : isBlank character = false) : words (character :: rest) ≠ [] := by
  rw [words, if_neg (by simp [notBlank])]
  split
  · exact nofun
  · split <;> exact nofun

/-- Blanks at the start of a text change none of its words. -/
theorem words_trimLeft (text : List Char) : words (trimLeft text) = words text := by
  induction text with
  | nil => rfl
  | cons character rest inductionHypothesis =>
      by_cases blank : isBlank character = true
      · rw [trimLeft_cons_of_isBlank rest blank, words, if_pos blank, inductionHypothesis]
      · have letter : startsBlank (character :: rest) = false := Bool.eq_false_iff.mpr blank
        rw [trimLeft_of_startsBlank letter]

/-- A text with a word is not blank. -/
theorem allBlank_eq_false_of_words
    {text : List Char}
    (something : words text ≠ []) : allBlank text = false := by
  rw [← Bool.not_eq_true]
  intro blank
  apply something
  have trimmed : trimLeft text = [] := by
    rw [← List.append_nil text, trimLeft_append_of_allBlank blank]
    rfl
  rw [← words_trimLeft, trimmed]
  rfl

/-- The line of a text starts with the first word of the text, and a space stands behind it. -/
theorem line_of_words
    {text word : List Char}
    {others : List (List Char)}
    (letter : startsBlank text = false)
    (found : words text = word :: others) :
    ∃ behind, line text = word ++ behind ∧ (behind = [] ∨ ∃ more, behind = ' ' :: more) := by
  induction text generalizing word with
  | nil => exact nomatch found
  | cons character rest inductionHypothesis =>
      have notBlank : isBlank character = false := letter
      rw [line_cons_of_not_isBlank rest notBlank]
      rw [words, if_neg (by simp [notBlank])] at found
      split at found
      · next ends =>
          obtain ⟨rfl, rfl⟩ := List.cons.inj found
          refine ⟨line rest, rfl, ?_⟩
          cases rest with
          | nil => exact Or.inl rfl
          | cons next rest => exact line_of_startsBlank ends
      · next goesOn =>
          cases rest with
          | nil => exact absurd rfl goesOn
          | cons next rest =>
              have nextLetter : isBlank next = false := Bool.eq_false_iff.mpr goesOn
              split at found
              · next noWords => exact absurd noWords (words_ne_nil rest nextLetter)
              · next first more foundRest =>
                  obtain ⟨rfl, rfl⟩ := List.cons.inj found
                  obtain ⟨behind, equal, space⟩ := inductionHypothesis nextLetter foundRest
                  exact ⟨behind, by rw [equal, List.cons_append], space⟩

/-- A text on one line starts with its first word, and a space stands behind it. -/
theorem collapse_of_words
    {text word : List Char}
    {others : List (List Char)}
    (found : words text = word :: others) :
    ∃ behind, collapse text = word ++ behind ∧ (behind = [] ∨ ∃ more, behind = ' ' :: more) := by
  rw [collapse_eq_line_trimLeft]
  rw [← words_trimLeft] at found
  exact line_of_words (startsBlank_trimLeft text) found

/-- Trimming the end of a text twice is trimming it once. -/
theorem trimRight_trimRight (text : List Char) : trimRight (trimRight text) = trimRight text := by
  induction text with
  | nil => rfl
  | cons character rest inductionHypothesis =>
      by_cases blank : isBlank character = true
      · rw [trimRight_cons_of_isBlank rest blank]
        split
        · rfl
        · next something =>
            rw [trimRight_cons_of_isBlank _ blank, inductionHypothesis, if_neg something]
      · rw [Bool.not_eq_true] at blank
        rw [trimRight_cons_of_not_isBlank rest blank, trimRight_cons_of_not_isBlank _ blank,
          inductionHypothesis]

/-- A line is its own line. -/
theorem line_line (text : List Char) : line (line text) = line text := by
  induction text with
  | nil => rfl
  | cons character rest inductionHypothesis =>
      by_cases blank : isBlank character = true
      · rw [line_cons_of_isBlank rest blank]
        split
        · exact inductionHypothesis
        · next letter =>
            split
            · rfl
            · next something =>
                have noBlank := startsBlank_collapse rest
                rw [collapse_of_startsBlank (Bool.eq_false_iff.mpr letter)] at noBlank
                rw [line_cons_of_isBlank _ rfl, noBlank, inductionHypothesis, if_neg something]
                rfl
      · rw [Bool.not_eq_true] at blank
        rw [line_cons_of_not_isBlank rest blank, line_cons_of_not_isBlank _ blank,
          inductionHypothesis]

theorem collapse_collapse (text : List Char) : collapse (collapse text) = collapse text := by
  rw [collapse_of_startsBlank (startsBlank_collapse text), collapse_eq_line_trimLeft, line_line]

theorem trim_collapse (text : List Char) : trim (collapse text) = collapse text := by
  rw [trim, trimLeft_of_startsBlank (startsBlank_collapse text), collapse_eq_line_trimLeft, line,
    trimRight_trimRight]

/-- A word has a letter and no blank. -/
theorem of_mem_words
    {text word : List Char}
    (present : word ∈ words text) : word ≠ [] ∧ ∀ character ∈ word, isBlank character = false := by
  induction text generalizing word with
  | nil => cases present
  | cons character rest inductionHypothesis =>
      rw [words] at present
      split at present
      · exact inductionHypothesis present
      · next letter =>
          rw [Bool.not_eq_true] at letter
          have alone : [character] ≠ [] ∧ ∀ other ∈ [character], isBlank other = false :=
            ⟨List.cons_ne_nil _ _, by simpa using letter⟩
          split at present
          · rcases List.mem_cons.mp present with rfl | later
            · exact alone
            · exact inductionHypothesis later
          · split at present
            · rw [List.mem_singleton.mp present]
              exact alone
            · next first others found =>
                rw [found] at inductionHypothesis
                rcases List.mem_cons.mp present with rfl | later
                · refine ⟨List.cons_ne_nil _ _, ?_⟩
                  rw [List.forall_mem_cons]
                  exact ⟨letter, (inductionHypothesis List.mem_cons_self).2⟩
                · exact inductionHypothesis (List.mem_cons_of_mem _ later)

theorem unwords_cons
    (word : List Char)
    {others : List (List Char)}
    (more : others ≠ []) : unwords (word :: others) = word ++ ' ' :: unwords others := by
  rw [unwords]
  exact more

theorem unwords_cons_cons
    (character : Char)
    (word : List Char)
    (others : List (List Char)) :
    unwords ((character :: word) :: others) = character :: unwords (word :: others) := by
  cases others with
  | nil => rfl
  | cons next others => rfl

/-- Only no words make an empty line. -/
theorem unwords_words_eq_nil_iff
    (text : List Char) : unwords (words text) = [] ↔ words text = [] := by
  constructor
  · intro nothing
    cases found : words text with
    | nil => rfl
    | cons word others =>
        have something := (of_mem_words (found ▸ List.mem_cons_self : word ∈ words text)).1
        obtain ⟨character, letters, rfl⟩ := List.exists_cons_of_ne_nil something
        rw [found, unwords_cons_cons] at nothing
        cases nothing
  · intro nothing
    rw [nothing]
    rfl

/-- The line of a text that starts with blanks has a space in front, if there is more in it. -/
theorem line_eq_of_startsBlank
    {text : List Char}
    (blank : startsBlank text = true) :
    line text = if collapse text = [] then [] else ' ' :: collapse text := by
  induction text with
  | nil => cases blank
  | cons character rest inductionHypothesis =>
      rw [collapse_cons_of_isBlank rest blank, line_cons_of_isBlank rest blank]
      split
      · next more => exact inductionHypothesis more
      · next letter => rw [collapse_of_startsBlank (Bool.eq_false_iff.mpr letter)]

/-- A character in front of a blank is a word. -/
theorem words_cons_of_startsBlank
    {character : Char}
    {rest : List Char}
    (letter : isBlank character = false)
    (ends : startsBlank rest = true) : words (character :: rest) = [character] :: words rest := by
  cases rest with
  | nil => cases ends
  | cons next rest =>
      have blank : isBlank next = true := ends
      rw [words, if_neg (by simp [letter]), if_pos (by simpa using blank)]

/-- A character in front of another that is not blank belongs to its word. -/
theorem words_cons_cons
    {character next : Char}
    (rest : List Char)
    (letter : isBlank character = false)
    (goesOn : isBlank next = false) :
    ∃ word others, words (next :: rest) = word :: others ∧
      words (character :: next :: rest) = (character :: word) :: others := by
  cases found : words (next :: rest) with
  | nil => exact absurd found (words_ne_nil rest goesOn)
  | cons word others =>
      refine ⟨word, others, rfl, ?_⟩
      rw [words, if_neg (by simp [letter]), if_neg (by simp [goesOn]), found]

/-- A text on one line is its words, joined with spaces. -/
theorem collapse_eq_unwords_words
    (text : List Char) : collapse text = unwords (words text) := by
  induction text with
  | nil => rfl
  | cons character rest inductionHypothesis =>
      by_cases blank : isBlank character = true
      · rw [collapse_cons_of_isBlank rest blank, words, if_pos blank, inductionHypothesis]
      · rw [Bool.not_eq_true] at blank
        have letter : startsBlank (character :: rest) = false := blank
        rw [collapse_of_startsBlank letter, line_cons_of_not_isBlank rest blank]
        cases rest with
        | nil =>
            rw [words, if_neg (by simp [blank])]
            rfl
        | cons next rest =>
            by_cases ends : startsBlank (next :: rest) = true
            · rw [words_cons_of_startsBlank blank ends, line_eq_of_startsBlank ends,
                inductionHypothesis]
              split
              · next nothing =>
                  rw [(unwords_words_eq_nil_iff _).mp nothing]
                  rfl
              · next more =>
                  rw [unwords_cons _ (mt (unwords_words_eq_nil_iff _).mpr more)]
                  rfl
            · rw [Bool.not_eq_true] at ends
              obtain ⟨word, others, found, joined⟩ := words_cons_cons rest blank ends
              rw [← collapse_of_startsBlank ends, inductionHypothesis, joined, found,
                unwords_cons_cons]

/-- A last word behind others is joined with a space. -/
theorem unwords_concat
    {line : List (List Char)}
    (last : List Char)
    (more : line ≠ []) : unwords (line ++ [last]) = unwords line ++ ' ' :: last := by
  induction line with
  | nil => exact absurd rfl more
  | cons word others inductionHypothesis =>
      by_cases alone : others = []
      · rw [alone]
        rfl
      · rw [List.cons_append, unwords_cons _ (List.append_ne_nil_of_left_ne_nil alone _),
          inductionHypothesis alone, unwords_cons _ alone, List.append_assoc, List.cons_append]

/-- The blanks of a line are the spaces between its words. -/
theorem eq_space_of_mem_unwords
    {line : List (List Char)}
    {character : Char}
    (letters : ∀ word ∈ line, ∀ letter ∈ word, isBlank letter = false)
    (present : character ∈ unwords line)
    (blank : isBlank character = true) : character = ' ' := by
  induction line with
  | nil => cases present
  | cons word others inductionHypothesis =>
      rw [List.forall_mem_cons] at letters
      have notInWord : character ∉ word := fun inWord => by
        rw [letters.1 character inWord] at blank
        cases blank
      by_cases alone : others = []
      · rw [alone] at present
        exact absurd present notInWord
      · rw [unwords_cons _ alone, List.mem_append, List.mem_cons] at present
        rcases present with inWord | space | later
        · exact absurd inWord notInWord
        · exact space
        · exact inductionHypothesis letters.2 later

/-- A change of letters that keeps the space changes a line word by word. -/
theorem map_unwords
    {change : Char → Char}
    (space : change ' ' = ' ')
    (line : List (List Char)) :
    (unwords line).map change = unwords (line.map (List.map change)) := by
  induction line with
  | nil => rfl
  | cons word others inductionHypothesis =>
      cases others with
      | nil => rfl
      | cons next others =>
          rw [unwords_cons _ (List.cons_ne_nil _ _), List.map_append, List.map_cons, space,
            inductionHypothesis]
          rfl

/-- A part without spaces that a line starts with is the start of its first word. -/
theorem prefix_unwords_iff
    {part word : List Char}
    {others : List (List Char)}
    (noSpace : ' ' ∉ part) : part <+: unwords (word :: others) ↔ part <+: word := by
  cases others with
  | nil => rfl
  | cons next others =>
      rw [unwords_cons _ (List.cons_ne_nil _ _)]
      refine ⟨?_, fun starts => starts.trans (List.prefix_append _ _)⟩
      intro starts
      apply List.prefix_of_prefix_length_le starts (List.prefix_append _ _)
      refine Nat.le_of_not_lt fun longer => ?_
      have further : word ++ [' '] <+: part := by
        apply List.prefix_of_prefix_length_le _ starts
        · rw [List.length_append, List.length_singleton]
          omega
        · exact ⟨unwords (next :: others), List.append_assoc _ _ _⟩
      exact noSpace (further.subset (by simp))

/-- There is one way to cut two texts at their first mark. -/
theorem eq_of_append_cons
    {mark : Char}
    {first second behindFirst behindSecond : List Char}
    (notInFirst : mark ∉ first)
    (notInSecond : mark ∉ second)
    (same : first ++ mark :: behindFirst = second ++ mark :: behindSecond) :
    first = second ∧ behindFirst = behindSecond := by
  induction first generalizing second with
  | nil =>
      cases second with
      | nil => exact ⟨rfl, (List.cons.inj same).2⟩
      | cons other second =>
          rw [List.nil_append, List.cons_append, List.cons.injEq] at same
          exact absurd (same.1 ▸ List.mem_cons_self) notInSecond
  | cons character first inductionHypothesis =>
      cases second with
      | nil =>
          rw [List.nil_append, List.cons_append, List.cons.injEq] at same
          exact absurd (same.1 ▸ List.mem_cons_self) notInFirst
      | cons other second =>
          rw [List.cons_append, List.cons_append, List.cons.injEq] at same
          obtain ⟨rfl, behind⟩ := inductionHypothesis
            (fun present => notInFirst (List.mem_cons_of_mem _ present))
            (fun present => notInSecond (List.mem_cons_of_mem _ present)) same.2
          exact ⟨by rw [same.1], behind⟩

/-- There is one way to cut two texts at their last mark. -/
theorem eq_of_append_cons_last
    {mark : Char}
    {first second behindFirst behindSecond : List Char}
    (notInFirst : mark ∉ behindFirst)
    (notInSecond : mark ∉ behindSecond)
    (same : first ++ mark :: behindFirst = second ++ mark :: behindSecond) :
    first = second ∧ behindFirst = behindSecond := by
  have reversed := congrArg List.reverse same
  simp only [List.reverse_append, List.reverse_cons, List.append_assoc, List.singleton_append]
    at reversed
  obtain ⟨behind, before⟩ := eq_of_append_cons (mt List.mem_reverse.mp notInFirst)
    (mt List.mem_reverse.mp notInSecond) reversed
  exact ⟨List.reverse_inj.mp before, List.reverse_inj.mp behind⟩

/-- What holds a space in the middle, in a text with its first space behind a word, stands around
that space or behind it. -/
theorem infix_append_space_iff
    {before behind word rest : List Char}
    (noSpaceBefore : ' ' ∉ before)
    (noSpace : ' ' ∉ word) :
    before ++ ' ' :: behind <:+: word ++ ' ' :: rest ↔
      before <:+ word ∧ behind <+: rest ∨ before ++ ' ' :: behind <:+: rest := by
  constructor
  · rintro ⟨start, tail, whole⟩
    by_cases space : ' ' ∈ start
    · obtain ⟨first, more, rfl, noSpaceFirst⟩ := List.eq_append_cons_of_mem space
      rw [List.append_assoc, List.append_assoc, List.cons_append] at whole
      obtain ⟨-, rfl⟩ := eq_of_append_cons noSpaceFirst noSpace whole
      exact Or.inr ⟨more, tail, List.append_assoc _ _ _⟩
    · rw [← List.append_assoc, List.append_assoc, List.cons_append] at whole
      obtain ⟨rfl, rfl⟩ := eq_of_append_cons (by simp [space, noSpaceBefore]) noSpace whole
      exact Or.inl ⟨⟨start, rfl⟩, ⟨tail, rfl⟩⟩
  · rintro (⟨⟨start, rfl⟩, ⟨tail, rfl⟩⟩ | later)
    · exact ⟨start, tail, by simp⟩
    · exact later.trans ⟨word ++ [' '], [], by simp⟩

/-- What holds a space in the middle stands on a line where two words meet. -/
theorem infix_unwords_iff
    {before behind : List Char}
    {line : List (List Char)}
    (noSpaceBefore : ' ' ∉ before)
    (noSpaceBehind : ' ' ∉ behind)
    (noSpaces : ∀ word ∈ line, ' ' ∉ word) :
    before ++ ' ' :: behind <:+: unwords line ↔
      ∃ first second, [first, second] <:+: line ∧ before <:+ first ∧ behind <+: second := by
  induction line with
  | nil => simp [unwords]
  | cons word others inductionHypothesis =>
      rw [List.forall_mem_cons] at noSpaces
      cases others with
      | nil =>
          constructor
          · intro inside
            exact absurd (inside.subset (by simp)) noSpaces.1
          · rintro ⟨first, second, inside, -⟩
            have short := inside.length_le
            simp at short
      | cons next others =>
          rw [unwords_cons _ (List.cons_ne_nil _ _),
            infix_append_space_iff noSpaceBefore noSpaces.1, prefix_unwords_iff noSpaceBehind,
            inductionHypothesis noSpaces.2]
          constructor
          · rintro (⟨ends, starts⟩ | ⟨first, second, inside, both⟩)
            · exact ⟨word, next, ⟨[], others, rfl⟩, ends, starts⟩
            · exact ⟨first, second, inside.trans (List.suffix_cons _ _).isInfix, both⟩
          · rintro ⟨first, second, inside, both⟩
            rcases List.infix_cons_iff.mp inside with starts | later
            · rw [List.cons_prefix_cons, List.cons_prefix_cons] at starts
              obtain ⟨rfl, rfl, -⟩ := starts
              exact Or.inl both
            · exact Or.inr ⟨first, second, later, both⟩

/-- A blank in a text separates the words before it from those behind it. -/
theorem words_append_cons
    (start : List Char)
    {blank : Char}
    (isBlankHere : isBlank blank = true)
    (rest : List Char) : words (start ++ blank :: rest) = words start ++ words rest := by
  induction start with
  | nil =>
      have skipped : words (blank :: rest) = words rest := by rw [words, if_pos isBlankHere]
      exact skipped
  | cons character start inductionHypothesis =>
      by_cases blankFirst : isBlank character = true
      · rw [List.cons_append, words, if_pos blankFirst, inductionHypothesis, words,
          if_pos blankFirst]
      · rw [Bool.not_eq_true] at blankFirst
        cases start with
        | nil =>
            have ends : startsBlank (blank :: rest) = true := isBlankHere
            rw [List.cons_append, List.nil_append, words_cons_of_startsBlank blankFirst ends, words,
              if_pos isBlankHere, words, if_neg (by simp [blankFirst])]
            rfl
        | cons next start =>
            by_cases ends : isBlank next = true
            · have endsHere (others : List Char) : startsBlank (next :: others) = true := ends
              rw [List.cons_append, List.cons_append,
                words_cons_of_startsBlank blankFirst (endsHere _), ← List.cons_append,
                inductionHypothesis, words_cons_of_startsBlank blankFirst (endsHere _),
                List.cons_append]
            · rw [Bool.not_eq_true] at ends
              obtain ⟨word, others, found, joined⟩ := words_cons_cons start blankFirst ends
              obtain ⟨longer, more, foundWhole, joinedWhole⟩ :=
                words_cons_cons (start ++ blank :: rest) blankFirst ends
              rw [← List.cons_append, inductionHypothesis, found, List.cons_append] at foundWhole
              obtain ⟨rfl, rfl⟩ := List.cons.inj foundWhole
              rw [List.cons_append, List.cons_append, joinedWhole, joined, List.cons_append]

/-- Letters without a blank are one word. -/
theorem words_of_letters
    {word : List Char}
    (something : word ≠ [])
    (letters : ∀ character ∈ word, isBlank character = false) : words word = [word] := by
  induction word with
  | nil => exact absurd rfl something
  | cons character word inductionHypothesis =>
      rw [List.forall_mem_cons] at letters
      cases word with
      | nil => rw [words, if_neg (by simp [letters.1])]; rfl
      | cons next word =>
          obtain ⟨first, others, found, joined⟩ :=
            words_cons_cons word letters.1 (letters.2 next List.mem_cons_self)
          rw [inductionHypothesis (List.cons_ne_nil _ _) letters.2] at found
          obtain ⟨rfl, rfl⟩ := List.cons.inj found
          exact joined

/-- The words of a line are the words it was joined from. -/
theorem words_unwords
    {line : List (List Char)}
    (letters : ∀ word ∈ line, word ≠ [] ∧ ∀ character ∈ word, isBlank character = false) :
    words (unwords line) = line := by
  induction line with
  | nil => rfl
  | cons word others inductionHypothesis =>
      rw [List.forall_mem_cons] at letters
      by_cases alone : others = []
      · rw [alone, unwords]
        exact words_of_letters letters.1.1 letters.1.2
      · rw [unwords_cons _ alone, words_append_cons _ rfl, words_of_letters letters.1.1 letters.1.2,
          inductionHypothesis letters.2, List.singleton_append]

theorem words_collapse (text : List Char) : words (collapse text) = words text := by
  rw [collapse_eq_unwords_words]
  exact words_unwords fun _ present => of_mem_words present

/-- Two texts are the same line exactly if they have the same words. -/
theorem collapse_eq_collapse_iff
    {text other : List Char} : collapse text = collapse other ↔ words text = words other := by
  constructor
  · intro same
    rw [← words_collapse, same, words_collapse]
  · intro same
    rw [collapse_eq_unwords_words, same, ← collapse_eq_unwords_words]

/-- Exactly the blank texts have no words. -/
theorem words_eq_nil_iff
    {text : List Char} : words text = [] ↔ allBlank text = true := by
  constructor
  · intro nothing
    induction text with
    | nil => rfl
    | cons character rest inductionHypothesis =>
        by_cases blank : isBlank character = true
        · rw [words, if_pos blank] at nothing
          rw [allBlank, List.all_cons, blank, Bool.true_and]
          exact inductionHypothesis nothing
        · rw [Bool.not_eq_true] at blank
          exact absurd nothing (words_ne_nil rest blank)
  · intro blank
    apply Classical.not_not.mp
    intro something
    rw [allBlank_eq_false_of_words something] at blank
    cases blank

end Text
end TableReach
