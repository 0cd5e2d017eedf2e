import TableReach.Template.Repair
import TableReach.Proofs.Text.Atoms
import TableReach.Proofs.Text.Search

/-!
# Filler and substance

Repairs put in and leave out a few keywords and marks, the filler.  What a text holds
besides filler and blanks is its substance.  Where filler and blanks stand in front of
a text, reading on behind them loses nothing of it.
-/

namespace TableReach
namespace Template

open Text

/-- The keywords that repairs put in and leave out. -/
def fillerWords : List (List Char) :=
  ["AND".toList, "OR".toList, "WHERE".toList, "SELECT".toList]

/-- The other atoms that repairs put in and leave out. -/
def fillerMarks : List (List Char) :=
  [['1'], [','], ['*'], ['=']]

/-- Repairs may put an atom in and leave it out: a keyword in any case, or a mark. -/
def isFiller (atom : List Char) : Bool :=
  fillerWords.contains (atom.map fold) || fillerMarks.contains atom

/-- The atoms of a text besides filler, in upper case. -/
def substance (text : List Char) : List (List Char) :=
  ((atoms text).filter fun atom => !isFiller atom).map fun atom => atom.map Char.toUpper

theorem substance_congr
    {text other : List Char}
    (same : atoms text = atoms other) : substance text = substance other := by
  rw [substance, substance, same]

theorem substance_append
    {start rest : List Char}
    (seam : IsSeam start rest) : substance (start ++ rest) = substance start ++ substance rest := by
  simp only [substance, atoms_append seam, List.filter_append, List.map_append]

theorem substance_append_of_filler
    {filler rest : List Char}
    (nothing : substance filler = [])
    (seam : IsSeam filler rest) : substance (filler ++ rest) = substance rest := by
  rw [substance_append seam, nothing, List.nil_append]

theorem isUpper_of_mem_fillerWords :
    ∀ word ∈ fillerWords, word ≠ [] ∧ word.all Char.isUpper = true := by
  decide

theorem substance_of_fillerWord
    {start : List Char}
    (filler : start.map fold ∈ fillerWords) : substance start = [] := by
  obtain ⟨something, capitals⟩ := isUpper_of_mem_fillerWords _ filler
  have left_out : isFiller start = true := by
    simp [isFiller, filler]
  simp [substance, atoms_of_keyword something capitals rfl, left_out]

/-- The keyword `FROM` is kept. -/
theorem substance_of_from
    {start : List Char}
    (letters : start.map fold = "FROM".toList) : substance start = ["FROM".toList] := by
  have alone : atoms start = [start] := atoms_of_keyword (by decide) (by decide) letters
  have upper : start.map Char.toUpper = "FROM".toList := by
    rw [← letters]
    apply List.map_congr_left
    intro character present
    have letter : fold character ∈ "FROM".toList := letters ▸ List.mem_map_of_mem present
    apply toUpper_eq_fold
    · exact ne_of_mem_of_not_mem letter (by decide)
    · exact ne_of_mem_of_not_mem letter (by decide)
  have notMark : start ∉ fillerMarks := by
    intro mark
    have short : ∀ mark ∈ fillerMarks, mark.length = 1 := by decide
    have length := congrArg List.length letters
    rw [List.length_map, short start mark] at length
    cases length
  have kept : isFiller start = false := by
    rw [isFiller, letters]
    simp [notMark, fillerWords]
  simp [substance, alone, kept, upper]

theorem endsWord_of_afterBlanks?
    {text rest : List Char}
    (found : afterBlanks? text = some rest) : endsWord text = true := by
  obtain ⟨character, others, blank, rfl, _⟩ := exists_of_afterBlanks? found
  exact endsWord_cons_of_isBlank others blank

theorem eq_nil_of_atEnd?
    {text : List Char}
    {done : Unit}
    (found : atEnd? text = some done) : text = [] := by
  cases text with
  | nil => rfl
  | cons character rest => cases found

/-- No word runs on into blanks up to the end. -/
theorem endsWord_of_atEnd?
    {text : List Char}
    {done : Unit}
    (found : atEnd? (trimLeft text) = some done) : endsWord text = true := by
  cases text with
  | nil => rfl
  | cons character rest =>
      apply endsWord_cons_of_isBlank
      by_contra letter
      have notBlank : startsBlank (character :: rest) = false := Bool.eq_false_iff.mpr letter
      rw [trimLeft_of_startsBlank notBlank] at found
      cases found

theorem exists_of_afterConnective?
    {text rest : List Char}
    (found : afterConnective? text = some rest) :
    ∃ word ∈ fillerWords, afterKeyword? word text = some rest := by
  unfold afterConnective? at found
  split at found
  · next behindAnd => exact ⟨"AND".toList, by decide, behindAnd.trans found⟩
  · exact ⟨"OR".toList, by decide, found⟩

/-- Only filler and blanks stand in front of `rest`, and something of these. -/
structure Passes (text rest : List Char) : Prop where
  /-- The rest is an end of the text. -/
  suffix : rest <:+ text
  /-- Something stands in front of it. -/
  shorter : rest.length < text.length
  /-- The rest holds the whole substance. -/
  substance_eq : substance rest = substance text

namespace Passes

variable
  {text next rest : List Char}

theorem trans
    (first : Passes text next)
    (second : Passes next rest) : Passes text rest where
  suffix := second.suffix.trans first.suffix
  shorter := second.shorter.trans first.shorter
  substance_eq := second.substance_eq.trans first.substance_eq

theorem of_trimLeft
    (passes : Passes (trimLeft text) rest) : Passes text rest where
  suffix := passes.suffix.trans (List.dropWhile_suffix _)
  shorter := Nat.lt_of_lt_of_le passes.shorter (List.dropWhile_suffix _).length_le
  substance_eq := passes.substance_eq.trans (substance_congr (atoms_trimLeft text))

theorem trimLeft
    (passes : Passes text rest) : Passes text (trimLeft rest) where
  suffix := (List.dropWhile_suffix _).trans passes.suffix
  shorter := Nat.lt_of_le_of_lt (List.dropWhile_suffix _).length_le passes.shorter
  substance_eq := (substance_congr (atoms_trimLeft rest)).trans passes.substance_eq

theorem of_atEnd?
    {done : Unit}
    (passes : Passes text rest)
    (found : atEnd? (Text.trimLeft rest) = some done) : Passes text [] := by
  rw [← eq_nil_of_atEnd? found]
  exact passes.trimLeft

/-- Blanks are passed. -/
theorem of_afterBlanks?
    (found : afterBlanks? text = some rest) : Passes text rest := by
  obtain ⟨character, others, blank, rfl, rfl⟩ := exists_of_afterBlanks? found
  apply Passes.trimLeft
  exact
    { suffix := List.suffix_cons character others
      shorter := Nat.lt_succ_self others.length
      substance_eq := substance_congr (atoms_cons_of_isBlank others blank).symm }

/-- Filler is passed where no word runs on behind it. -/
theorem of_filler
    {filler : List Char}
    (something : filler ≠ [])
    (nothing : substance filler = [])
    (seam : IsSeam filler rest) : Passes (filler ++ rest) rest where
  suffix := List.suffix_append filler rest
  shorter := by
    have longer := List.length_pos_iff.mpr something
    rw [List.length_append]
    omega
  substance_eq := (substance_append_of_filler nothing seam).symm

/-- A keyword that is filler is passed where the word ends. -/
theorem of_afterKeyword?
    {word : List Char}
    (filler : word ∈ fillerWords)
    (found : afterKeyword? word text = some rest)
    (ends : endsWord rest = true) : Passes text rest := by
  obtain ⟨start, rfl, rfl⟩ := afterKeyword?_eq_some_iff.mp found
  apply of_filler
  · rintro rfl
    exact (isUpper_of_mem_fillerWords _ filler).1 rfl
  · exact substance_of_fillerWord filler
  · exact Or.inr ends

theorem of_afterConnective?
    (found : afterConnective? text = some rest)
    (ends : endsWord rest = true) : Passes text rest := by
  obtain ⟨word, filler, found⟩ := exists_of_afterConnective? found
  exact of_afterKeyword? filler found ends

theorem of_connectiveAndBlanks
    (behindConnective : afterConnective? text = some next)
    (behindBlanks : afterBlanks? next = some rest) : Passes text rest :=
  (of_afterConnective? behindConnective (endsWord_of_afterBlanks? behindBlanks)).trans
    (of_afterBlanks? behindBlanks)

theorem of_afterKeywordAndBlanks?
    {word : List Char}
    (filler : word ∈ fillerWords)
    (found : afterKeywordAndBlanks? word text = some rest) : Passes text rest := by
  obtain ⟨next, behindWord, behindBlanks⟩ := Option.bind_eq_some_iff.mp found
  exact (of_afterKeyword? filler behindWord (endsWord_of_afterBlanks? behindBlanks)).trans
    (of_afterBlanks? behindBlanks)

/-- Blanks are passed, with a `WHERE` and blanks behind them if they stand there. -/
theorem of_blanksAndWhere
    (behindBlanks : afterBlanks? text = some next) :
    Passes text ((afterKeywordAndBlanks? "WHERE".toList next).getD next) := by
  have blanks : Passes text next := of_afterBlanks? behindBlanks
  cases behindWhere : afterKeywordAndBlanks? "WHERE".toList next with
  | none => exact blanks
  | some rest => exact blanks.trans (of_afterKeywordAndBlanks? (by decide) behindWhere)

theorem of_comma
    (found : afterExact? [','] text = some rest) : Passes text rest := by
  rw [afterExact?_eq_some_iff.mp found]
  exact of_filler (by decide) (by decide) (Or.inl (by decide))

end Passes

/-- The keyword `FROM` is all that the text behind it lacks. -/
theorem substance_of_afterFrom
    {text table : List Char}
    (found : afterKeywordAndBlanks? "FROM".toList text = some table) :
    substance text = "FROM".toList :: substance table := by
  obtain ⟨next, behindFrom, behindBlanks⟩ := Option.bind_eq_some_iff.mp found
  obtain ⟨start, rfl, letters⟩ := afterKeyword?_eq_some_iff.mp behindFrom
  rw [substance_append (Or.inr (endsWord_of_afterBlanks? behindBlanks)),
    substance_of_from letters, (Passes.of_afterBlanks? behindBlanks).substance_eq]
  rfl

/-- The name of a table behind `FROM`, with a condition that always holds behind it. -/
theorem substance_from_where
    (name rest : List Char) :
    substance ("FROM ".toList ++ name ++ " WHERE 1=1 ".toList ++ rest) =
      "FROM".toList :: (substance name ++ substance rest) := by
  have kept : substance "FROM ".toList = ["FROM".toList] := by decide
  have nothing : substance " WHERE 1=1 ".toList = [] := by decide
  have behindFrom : IsSeam "FROM ".toList (name ++ (" WHERE 1=1 ".toList ++ rest)) :=
    Or.inl startsWord_space
  have behindName : IsSeam name (" WHERE 1=1 ".toList ++ rest) := Or.inr startsWord_space
  have behindCondition : IsSeam " WHERE 1=1 ".toList rest := Or.inl startsWord_space
  rw [List.append_assoc, List.append_assoc, substance_append behindFrom, kept,
    substance_append behindName, substance_append_of_filler nothing behindCondition]
  rfl

end Template
end TableReach
