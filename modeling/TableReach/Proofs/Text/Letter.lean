import TableReach.Text.Letter

/-!
# Laws of letters

What is a letter when case is ignored is a word character, and but for an S and a K it
is that letter in upper case.  A word goes as far as there are word characters.
-/

namespace TableReach
namespace Text

/-- What holds of the ASCII letters by their codes holds of every character that is an ASCII letter
in upper case. -/
theorem of_isUpper_toUpper
    (property : Char → Prop)
    {character : Char}
    (holds : ∀ code < 128, (Char.ofNat code).toUpper.isUpper = true → property (Char.ofNat code))
    (letter : character.toUpper.isUpper = true) : property character := by
  have ascii : character.toNat < 128 := by
    have upper := letter
    unfold Char.toUpper at upper
    split at upper
    · next lower => exact Nat.lt_of_le_of_lt (UInt32.le_iff_toNat_le.mp lower.2) (by decide)
    · have bounds : character.val ≥ 65 ∧ character.val ≤ 90 := of_decide_eq_true upper
      exact Nat.lt_of_le_of_lt (UInt32.le_iff_toNat_le.mp bounds.2) (by decide)
  have found := holds character.toNat ascii
  rw [Char.ofNat_toNat] at found
  exact found letter

/-- A character that is a capital when case is ignored stands in a word. -/
theorem isWord_of_fold
    {character : Char}
    (letter : (fold character).isUpper = true) : isWord character = true := by
  unfold fold at letter
  split at letter
  · next long =>
      rw [beq_iff_eq.mp long]
      decide +kernel
  · split at letter
    · next kelvin =>
        rw [beq_iff_eq.mp kelvin]
        decide +kernel
    · exact of_isUpper_toUpper (fun character => isWord character = true) (by decide +kernel) letter

/-- No word runs on past the word characters at the start of a text. -/
theorem endsWord_dropWhile
    (text : List Char) : endsWord (text.dropWhile isWord) = true := by
  have notWord := List.head?_dropWhile_not isWord text
  unfold endsWord
  cases first : (text.dropWhile isWord).head? with
  | none => rfl
  | some character =>
      rw [first] at notWord
      simpa using notWord

/-- A word that ends in front of a text is all the word characters at the start of the two. -/
theorem takeWhile_append_of_endsWord
    {word rest : List Char}
    (letters : ∀ character ∈ word, isWord character = true)
    (ends : endsWord rest = true) : (word ++ rest).takeWhile isWord = word := by
  rw [List.takeWhile_append_of_pos letters]
  cases rest with
  | nil => rw [List.takeWhile_nil, List.append_nil]
  | cons character rest =>
      have notWord : ¬ isWord character = true := by simpa [endsWord] using ends
      rw [List.takeWhile_cons_of_neg notWord, List.append_nil]

/-- Behind a word that ends in front of a text stands that text. -/
theorem dropWhile_append_of_endsWord
    {word rest : List Char}
    (letters : ∀ character ∈ word, isWord character = true)
    (ends : endsWord rest = true) : (word ++ rest).dropWhile isWord = rest := by
  rw [List.dropWhile_append_of_pos letters]
  cases rest with
  | nil => rfl
  | cons character rest =>
      have notWord : ¬ isWord character = true := by simpa [endsWord] using ends
      rw [List.dropWhile_cons_of_neg notWord]

/-- Ignoring case puts a character in upper case, unless it gives an S or a K. -/
theorem toUpper_eq_fold
    {character : Char}
    (notLong : fold character ≠ 'S')
    (notKelvin : fold character ≠ 'K') : character.toUpper = fold character := by
  unfold fold at notLong notKelvin ⊢
  split
  · next long =>
      rw [if_pos long] at notLong
      exact absurd rfl notLong
  · next notLongHere =>
      rw [if_neg notLongHere] at notKelvin
      split
      · next kelvin =>
          rw [if_pos kelvin] at notKelvin
          exact absurd rfl notKelvin
      · rfl

end Text
end TableReach
