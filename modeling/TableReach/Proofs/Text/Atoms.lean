import TableReach.Proofs.Text.Blank
import TableReach.Proofs.Text.Letter
import Mathlib.Data.List.SplitBy

/-!
# Atoms of a text

The atoms of a text are its words, as long as they go, and its signs one by one;
blanks are none.  A text can be cut anywhere but inside a word: its atoms are those of
the two parts.  So what happens to its blanks does not touch them.
-/

namespace TableReach
namespace Text

/-- The atoms of a text: the longest runs of word characters, and every other character that is not
blank on its own. -/
def atoms (text : List Char) : List (List Char) :=
  (text.splitBy fun first second => isWord first && isWord second).filter fun atom =>
    !allBlank atom

/-- No word runs on from one text into the next. -/
def IsSeam (start rest : List Char) : Prop :=
  startsWord start.getLast? = true ∨ endsWord rest = true

/-- The atoms of a text that is cut outside its words. -/
theorem atoms_append
    {start rest : List Char}
    (seam : IsSeam start rest) : atoms (start ++ rest) = atoms start ++ atoms rest := by
  unfold atoms
  rw [List.splitBy_append, List.filter_append]
  intro last isLast first isFirst
  rw [Option.mem_def] at isLast isFirst
  rw [Bool.and_eq_false_iff]
  apply seam.imp
  · intro starts
    simpa [startsWord, isLast] using starts
  · intro ends
    simpa [endsWord, isFirst] using ends

theorem atoms_cons_of_isBlank
    {character : Char}
    (rest : List Char)
    (blank : isBlank character = true) : atoms (character :: rest) = atoms rest := by
  have seam : IsSeam [character] rest := Or.inl (startsWord_of_isBlank blank)
  rw [← List.singleton_append, atoms_append seam]
  simp [atoms, List.splitBy, List.splitBy.loop, allBlank, blank]

/-- A word is one atom. -/
theorem atoms_of_isWord
    {word : List Char}
    (something : word ≠ [])
    (letters : ∀ character ∈ word, isWord character = true) : atoms word = [word] := by
  have run : word.IsChain fun first second => (isWord first && isWord second) = true := by
    apply List.Pairwise.isChain
    apply List.pairwise_of_forall_mem_list
    intro first firstPresent second secondPresent
    rw [letters first firstPresent, letters second secondPresent]
    rfl
  have notBlank : allBlank word = false := by
    obtain ⟨first, others, rfl⟩ := List.exists_cons_of_ne_nil something
    rw [← Bool.not_eq_true]
    intro blank
    have noWord := isWord_of_isBlank (List.all_eq_true.mp blank first List.mem_cons_self)
    rw [letters first List.mem_cons_self] at noWord
    cases noWord
  rw [atoms, List.splitBy_of_isChain something run]
  simp [notBlank]

/-- The first atom of a text that starts with a word. -/
theorem atoms_of_endsWord_eq_false
    {text : List Char}
    (starts : endsWord text = false) :
    ∃ word behind, text = word ++ behind ∧ word ≠ [] ∧ endsWord word = false ∧
      endsWord behind = true ∧ atoms text = word :: atoms behind := by
  have ends := endsWord_dropWhile text
  cases text with
  | nil => cases starts
  | cons character rest =>
      have letter : isWord character = true := by simpa [endsWord] using starts
      have word : (character :: rest).takeWhile isWord = character :: rest.takeWhile isWord :=
        List.takeWhile_cons_of_pos letter
      have letters := List.all_eq_true.mp (List.all_takeWhile (p := isWord) (l := character :: rest))
      refine ⟨_, _, List.takeWhile_append_dropWhile.symm, ?_, ?_, ends, ?_⟩
      · rw [word]
        exact List.cons_ne_nil _ _
      · rw [word]
        exact starts
      · nth_rewrite 1 [← List.takeWhile_append_dropWhile (p := isWord) (l := character :: rest)]
        rw [atoms_append (Or.inr ends), atoms_of_isWord (by rw [word]; exact List.cons_ne_nil _ _) letters,
          List.singleton_append]

/-- A keyword in any case is one atom. -/
theorem atoms_of_keyword
    {start word : List Char}
    (something : word ≠ [])
    (capitals : word.all Char.isUpper = true)
    (letters : start.map fold = word) : atoms start = [start] := by
  subst letters
  apply atoms_of_isWord
  · rintro rfl
    exact something rfl
  · intro character present
    exact isWord_of_fold (List.all_eq_true.mp capitals _ (List.mem_map_of_mem present))

theorem endsWord_cons_of_isBlank
    {character : Char}
    (rest : List Char)
    (blank : isBlank character = true) : endsWord (character :: rest) = true :=
  startsWord_of_isBlank blank

theorem endsWord_of_startsBlank
    {text : List Char}
    (blank : startsBlank text = true) : endsWord text = true := by
  cases text with
  | nil => rfl
  | cons character rest => exact endsWord_cons_of_isBlank rest blank

/-- The atoms of a text are those of its line, whatever stands before it. -/
theorem atoms_append_line
    (start text : List Char) : atoms (start ++ line text) = atoms (start ++ text) := by
  -- Behind a character that stays, the induction goes on with that character moved to the start:
  -- inside a word there is no place to cut.
  induction text generalizing start with
  | nil => rfl
  | cons character rest inductionHypothesis =>
      by_cases blank : isBlank character = true
      · have cut : atoms (start ++ character :: rest) = atoms start ++ atoms rest := by
          rw [atoms_append (Or.inr (endsWord_cons_of_isBlank rest blank)),
            atoms_cons_of_isBlank rest blank]
        have others : atoms (line rest) = atoms rest := inductionHypothesis []
        rw [cut, line_cons_of_isBlank rest blank]
        split
        · next more =>
            rw [inductionHypothesis, atoms_append (Or.inr (endsWord_of_startsBlank more))]
        · split
          · next nothing =>
              rw [nothing] at others
              rw [← others, atoms_append (Or.inr rfl)]
          · rw [atoms_append (Or.inr rfl), atoms_cons_of_isBlank _ rfl, others]
      · have letter : isBlank character = false := by simpa using blank
        rw [line_cons_of_not_isBlank rest letter, List.append_cons, inductionHypothesis,
          ← List.append_cons]

/-- Trimming the start of a text keeps its atoms. -/
theorem atoms_trimLeft
    (text : List Char) : atoms (trimLeft text) = atoms text := by
  induction text with
  | nil => rfl
  | cons character rest inductionHypothesis =>
      by_cases blank : isBlank character = true
      · rw [trimLeft_cons_of_isBlank rest blank, inductionHypothesis,
          atoms_cons_of_isBlank rest blank]
      · have letter : startsBlank (character :: rest) = false := Bool.eq_false_iff.mpr blank
        rw [trimLeft_of_startsBlank letter]

theorem atoms_collapse
    (text : List Char) : atoms (collapse text) = atoms text := by
  rw [collapse_eq_line_trimLeft]
  calc
    atoms (line (trimLeft text)) = atoms (trimLeft text) := atoms_append_line [] _
    _ = atoms text := atoms_trimLeft text

end Text
end TableReach
