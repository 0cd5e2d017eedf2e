import TableReach.Classification.Statement
import TableReach.Proofs.Text.Search
import TableReach.Proofs.Text.Words

/-!
# One line, made in two ways

A text is put on one line by a search that replaces every run of blanks with a
space, and a trim of the ends; or by joining its words, the parts between its blanks,
with spaces.  Both give the same line, so the preview of a text, made in the second
way, shows the start of the line that the first one gives.
-/

namespace TableReach
namespace Text

/-! ## Squeezing as a search -/

/-- The run of blanks that a text starts with, as a match that a space replaces. -/
def blankRun? (text : List Char) : Option (List Char × List Char) :=
  (afterBlanks? text).map fun rest => ([' '], rest)

/-- Squeezing a text replaces every run of blanks that a search finds with a space. -/
theorem replaceAll_blankRun?
    (text : List Char) : replaceAll (fun _ => blankRun?) text = squeeze text := by
  -- The induction is on the length of the text: behind a run the search goes on with what is left.
  induction size : text.length using Nat.strongRecOn generalizing text with
  | ind length inductionHypothesis =>
      subst size
      cases text with
      | nil => rfl
      | cons character rest =>
          by_cases blank : isBlank character = true
          · have whole :
                character :: rest.takeWhile isBlank ++ trimLeft rest = character :: rest := by
              rw [trimLeft, List.cons_append, List.takeWhile_append_dropWhile]
            have found :
                blankRun? (character :: rest.takeWhile isBlank ++ trimLeft rest) =
                  some ([' '], trimLeft rest) := by
              rw [whole, blankRun?, afterBlanks?, if_pos blank]
              rfl
            have shorter : (trimLeft rest).length < (character :: rest).length :=
              Nat.lt_succ_of_le (List.dropWhile_suffix isBlank).length_le
            have starts : startsBlank (character :: rest) = true := blank
            rw [squeeze_of_startsBlank starts, trimLeft_cons_of_isBlank rest blank,
              ← inductionHypothesis _ shorter _ rfl, ← whole]
            exact replaceAll_append (List.cons_ne_nil _ _) found
          · have missed : blankRun? (character :: rest) = none := by
              rw [blankRun?, afterBlanks?, if_neg blank]
              rfl
            rw [replaceAll_cons missed, inductionHypothesis _ (Nat.lt_succ_self _) rest rfl,
              squeeze_cons_of_not_isBlank rest (Bool.eq_false_iff.mpr blank)]

/-! ## Words between blanks -/

/-- The words of a text are the parts between its blanks that are not empty. -/
theorem words_eq_filter_splitOnP
    (text : List Char) :
    words text = (text.splitOnP isBlank).filter fun part => !part.isEmpty := by
  induction size : text.length using Nat.strongRecOn generalizing text with
  | ind length inductionHypothesis =>
      subst size
      by_cases blanks : ∃ blank ∈ text, isBlank blank = true
      · -- Any blank will do: it separates words and parts alike.
        obtain ⟨blank, present, isBlankHere⟩ := blanks
        obtain ⟨start, rest, rfl⟩ := List.append_of_mem present
        have shorter :
            start.length < (start ++ blank :: rest).length ∧
              rest.length < (start ++ blank :: rest).length := by
          rw [List.length_append, List.length_cons]
          omega
        rw [words_append_cons start isBlankHere, List.splitOnP_append_cons start rest isBlankHere,
          List.filter_append, inductionHypothesis _ shorter.1 start rfl,
          inductionHypothesis _ shorter.2 rest rfl]
      · have letters : ∀ character ∈ text, isBlank character = false := by
          intro character present
          exact Bool.eq_false_iff.mpr fun blank => blanks ⟨character, present, blank⟩
        rw [List.splitOnP_eq_singleton letters]
        by_cases nothing : text = []
        · rw [nothing]
          rfl
        · rw [words_of_letters nothing letters]
          simp [nothing]

/-- Words are joined with single spaces. -/
theorem unwords_eq_intercalate
    (line : List (List Char)) : unwords line = [' '].intercalate line := by
  induction line with
  | nil => rfl
  | cons word others inductionHypothesis =>
      cases others with
      | nil => simp [unwords]
      | cons next others =>
          rw [unwords_cons _ (List.cons_ne_nil _ _), inductionHypothesis,
            List.intercalate_cons_cons, List.append_assoc, List.singleton_append]

/-! ## Gaps -/

/-- At least one blank, and nothing else. -/
structure IsGap (gap : List Char) : Prop where
  ne_nil : gap ≠ []
  allBlank : allBlank gap = true

/-- A gap separates the words before it from those behind it. -/
theorem words_append_gap
    (before : List Char)
    {gap : List Char}
    (isGap : IsGap gap)
    (behind : List Char) : words (before ++ gap ++ behind) = words before ++ words behind := by
  obtain ⟨first, others, rfl⟩ := List.exists_cons_of_ne_nil isGap.ne_nil
  have blanks : isBlank first = true ∧ allBlank others = true := by
    simpa [allBlank] using isGap.allBlank
  rw [List.append_assoc, List.cons_append, words_append_cons before blanks.1,
    ← words_trimLeft (others ++ behind), trimLeft_append_of_allBlank blanks.2, words_trimLeft]

theorem collapse_append_gap
    {gap other : List Char}
    (isGap : IsGap gap)
    (isOther : IsGap other)
    (before behind : List Char) :
    collapse (before ++ gap ++ behind) = collapse (before ++ other ++ behind) := by
  rw [collapse_eq_collapse_iff, words_append_gap before isGap, words_append_gap before isOther]

end Text

open Text

theorem preview_eq
    (text : List Char) :
    preview text =
      if (collapse text).length ≤ 50 then String.ofList (collapse text)
      else String.ofList ((collapse text).take 50) ++ "..." := by
  rw [preview, ← collapse_eq_unwords_words]

-- Characters are counted, however many bytes they have.
example : preview (List.replicate 50 'é') = String.ofList (List.replicate 50 'é') ∧
    preview (List.replicate 51 'é') = String.ofList (List.replicate 50 'é') ++ "..." := by
  decide

/-- A text collapses to its words.  Replacing every run of blanks with a space and trimming the ends
gives the parts between the blanks that are not empty, joined with single spaces.  So the line of a
text is its own line and depends on no gap, and the preview of a text is its line, cut behind fifty
characters. -/
theorem collapse_joins_words :
    (∀ text : List Char,
        collapse text = trim (replaceAll (fun _ => blankRun?) text) ∧
          collapse text =
            [' '].intercalate ((text.splitOnP isBlank).filter fun part => !part.isEmpty)) ∧
      (∀ text : List Char, collapse (collapse text) = collapse text) ∧
      (∀ before gap other behind : List Char, IsGap gap → IsGap other →
        collapse (before ++ gap ++ behind) = collapse (before ++ other ++ behind)) ∧
      ∀ text : List Char,
        preview text =
          if (collapse text).length ≤ 50 then String.ofList (collapse text)
          else String.ofList ((collapse text).take 50) ++ "..." := by
  refine ⟨?_, collapse_collapse, ?_, preview_eq⟩
  · intro text
    rw [replaceAll_blankRun?, ← words_eq_filter_splitOnP, ← unwords_eq_intercalate]
    exact ⟨rfl, collapse_eq_unwords_words text⟩
  · intro before gap other behind isGap isOther
    exact collapse_append_gap isGap isOther before behind

/-- A tab with a no-break space and an ideographic space are the same gap. -/
theorem collapse_of_wideGap :
    let gap := ['\t', '\u00a0']
    let other := ['\u3000']
    IsGap gap ∧ IsGap other ∧
      collapse ("é".toList ++ gap ++ "ü ".toList) = collapse ("é".toList ++ other ++ "ü ".toList) ∧
      collapse ("é".toList ++ gap ++ "ü ".toList) = "é ü".toList := by
  intro gap other
  have isGap : IsGap gap := ⟨List.cons_ne_nil _ _, rfl⟩
  have isOther : IsGap other := ⟨List.cons_ne_nil _ _, rfl⟩
  exact ⟨isGap, isOther, collapse_joins_words.2.2.1 _ gap other _ isGap isOther, by decide⟩

end TableReach
