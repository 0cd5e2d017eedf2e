import TableReach.Template.Shape
import TableReach.Proofs.Text.Words

/-!
# Texts with the shape of a statement

A text has the shape of a statement on one line if its first word can start one
and is followed by another, and nothing in it looks unfinished.
-/

namespace TableReach
namespace Template

open Text

/-- The first word of a text can start a statement. -/
def opensStatement (text : List Char) : Bool :=
  (words text).head?.any fun word => openingKeywords.contains (word.map Char.toUpper)

/-- The text in upper case ends in an open clause or holds a doubled keyword. -/
def looksUnfinished (text : List Char) : Bool :=
  let statement := text.map Char.toUpper
  openClauses.any (closesWith statement) || contains statement "WHERE WHERE".toList ||
    contains statement "FROM FROM".toList

/-- A text whose first word can start a statement has a word. -/
theorem exists_word_of_opensStatement
    {text : List Char}
    (opens : opensStatement text = true) :
    ∃ word others, words text = word :: others ∧ word.map Char.toUpper ∈ openingKeywords := by
  rw [opensStatement] at opens
  cases found : words text with
  | nil =>
      rw [found] at opens
      exact nomatch opens
  | cons word others =>
      rw [found, List.head?_cons, Option.any_some, List.contains_iff_mem] at opens
      exact ⟨word, others, rfl, opens⟩

/-- A text of more than one word has the shape of a statement on one line if its first word can
start one and it does not look unfinished. -/
theorem hasStatementShape_collapse
    {text word : List Char}
    {others : List (List Char)}
    (found : words text = word :: others)
    (known : word.map Char.toUpper ∈ openingKeywords)
    (more : collapse text ≠ word)
    (finished : looksUnfinished (collapse text) = false) :
    hasStatementShape (collapse text) = true := by
  have opens : openingKeywords.any (opensWith ((collapse text).map Char.toUpper)) = true := by
    refine List.any_eq_true.mpr ⟨_, known, ?_⟩
    obtain ⟨behind, equal, space⟩ := collapse_of_words found
    rcases space with rfl | ⟨rest, rfl⟩
    · exact absurd (by rw [equal, List.append_nil]) more
    · rw [equal, opensWith, List.map_append, List.drop_left' (by rw [List.length_map]),
        Bool.and_eq_true]
      exact ⟨List.isPrefixOf_iff_prefix.mpr (List.prefix_append _ _), rfl⟩
  rw [looksUnfinished, Bool.or_eq_false_iff, Bool.or_eq_false_iff] at finished
  rw [hasStatementShape, trim_collapse, opens, finished.1.1, finished.1.2, finished.2]
  rfl

end Template
end TableReach
