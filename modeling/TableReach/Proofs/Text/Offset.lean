import TableReach.Proofs.Text.Search
import Mathlib.Data.String.Basic

/-!
# Laws of byte offsets

The bytes of the parts before a place add up to its offset.  So an offset that was
found in one part of a text, added to the bytes before that part, is a place at
which the whole text can be cut, and the cut gives the part back.
-/

namespace TableReach
namespace Text

/-! ## First marks -/

section Mark

variable
  {mark : List Char}
  (something : mark ≠ [])

include something

/-- No mark is found exactly if none stands in the text. -/
theorem splitAtMark?_eq_none_iff_not_isInfix
    {text : List Char} : splitAtMark? mark text = none ↔ ¬ mark <:+: text := by
  induction text with
  | nil => simpa [splitAtMark?] using something
  | cons character rest inductionHypothesis =>
      rw [splitAtMark?, List.infix_cons_iff, not_or, ← afterExact?_eq_none_iff]
      cases afterExact? mark (character :: rest) with
      | none => simpa using inductionHypothesis
      | some remaining => simp

/-- No mark stands before the one that is found. -/
theorem length_le_of_splitAtMark?
    {start rest inside behind : List Char}
    (found : splitAtMark? mark (start ++ mark ++ rest) = some (inside, behind)) :
    inside.length ≤ start.length := by
  induction start generalizing inside with
  | nil =>
      obtain ⟨first, others, rfl⟩ := List.exists_cons_of_ne_nil something
      have here : afterExact? (first :: others) (first :: (others ++ rest)) = some rest :=
        afterExact?_eq_some_iff.mpr rfl
      rw [List.nil_append, List.cons_append, splitAtMark?, here] at found
      obtain ⟨rfl, rfl⟩ := Prod.mk.inj (Option.some_inj.mp found)
      exact Nat.le_refl _
  | cons character start inductionHypothesis =>
      rw [List.cons_append, List.cons_append, splitAtMark?] at found
      split at found
      · obtain ⟨rfl, rfl⟩ := Prod.mk.inj (Option.some_inj.mp found)
        exact Nat.zero_le _
      · obtain ⟨parts, foundLater, equal⟩ := Option.map_eq_some_iff.mp found
        obtain ⟨rfl, rfl⟩ := Prod.mk.inj equal
        exact Nat.succ_le_succ (inductionHypothesis foundLater)

end Mark

/-- A mark stands behind a text, and no mark stands before that one. -/
def StandsFirst (mark before : String) : Prop :=
  ∀ start behind : String, before ++ mark = start ++ mark ++ behind → behind = ""

/-- The mark that is found is the one that stands first. -/
theorem standsFirst_iff
    {mark before : String}
    (something : mark.toList ≠ []) :
    StandsFirst mark before ↔
      splitAtMark? mark.toList (before.toList ++ mark.toList) = some (before.toList, []) := by
  constructor
  · intro first
    cases found : splitAtMark? mark.toList (before.toList ++ mark.toList) with
    | none =>
        have absent := (splitAtMark?_eq_none_iff_not_isInfix something).mp found
        exact absurd (List.suffix_append before.toList mark.toList).isInfix absent
    | some parts =>
        obtain ⟨inside, behind⟩ := parts
        have split := (splitAtMark?_append something found).1
        have nothing := first (String.ofList inside) (String.ofList behind)
          (String.toList_inj.mp (by simpa using split))
        obtain rfl : behind = [] := by simpa using nothing
        rw [List.append_nil] at split
        rw [List.append_cancel_right split]
  · intro found start behind split
    have written := congrArg String.toList split
    simp only [String.toList_append] at written
    rw [written] at found
    have before_le := length_le_of_splitAtMark? something found
    have lengths := congrArg List.length written
    simp only [List.length_append] at lengths
    apply String.toList_inj.mp
    exact List.eq_nil_of_length_eq_zero (by omega)

theorem StandsFirst.splitAtMark?_eq
    {mark before : String}
    (first : StandsFirst mark before)
    (something : mark.toList ≠ [])
    (behind : List Char) :
    splitAtMark? mark.toList (before.toList ++ mark.toList ++ behind) =
      some (before.toList, behind) :=
  (splitAtMark?_append something ((standsFirst_iff something).mp first)).2 behind

/-! ## Cuts -/

theorem isValid_append (before behind : String) :
    String.Pos.Raw.isValid (before ++ behind) ⟨before.utf8ByteSize⟩ = true :=
  String.Pos.Raw.isValid_eq_true_iff.mpr
    (String.Pos.Raw.isValid_iff_exists_append.mpr ⟨before, behind, rfl, rfl⟩)

/-- What is cut out between two parts of a text is what stands there. -/
theorem slice_append (before part behind : String) :
    slice (before ++ part ++ behind) before.utf8ByteSize
      (before.utf8ByteSize + part.utf8ByteSize) = .ok part := by
  have start : String.Pos.Raw.isValid (before ++ part ++ behind) ⟨before.utf8ByteSize⟩ = true := by
    rw [String.append_assoc]
    exact isValid_append before (part ++ behind)
  have stop : String.Pos.Raw.isValid (before ++ part ++ behind)
      ⟨before.utf8ByteSize + part.utf8ByteSize⟩ = true := by
    rw [← String.utf8ByteSize_append]
    exact isValid_append (before ++ part) behind
  have between := String.extract_of_valid before.toList part.toList behind.toList
  simp only [String.ofList_append, String.ofList_toList, ← String.utf8ByteSize_ofList] at between
  rw [slice, if_pos ⟨Nat.le_add_right _ _, start, stop⟩, between]

theorem sliceFrom_append (before behind : String) :
    sliceFrom (before ++ behind) before.utf8ByteSize = .ok behind := by
  have whole := slice_append before behind ""
  rwa [String.append_empty, ← String.utf8ByteSize_append] at whole

theorem difference_append (before behind : String) :
    difference (before ++ behind).utf8ByteSize before.utf8ByteSize = .ok behind.utf8ByteSize := by
  rw [String.utf8ByteSize_append, difference, if_pos (Nat.le_add_right _ _), Nat.add_sub_cancel_left]

/-! ## Offsets that are found -/

/-- A mark is not found, or it divides the text at its offset. -/
theorem offsetOf?_cases
    (mark text : String)
    (something : mark.toList ≠ []) :
    (offsetOf? mark text = none ∧ splitAtMark? mark.toList text.toList = none) ∨
      ∃ before behind : String, text = before ++ mark ++ behind ∧
        offsetOf? mark text = some before.utf8ByteSize ∧
        splitAtMark? mark.toList text.toList = some (before.toList, behind.toList) := by
  cases found : splitAtMark? mark.toList text.toList with
  | none => exact .inl ⟨by rw [offsetOf?, found]; rfl, rfl⟩
  | some parts =>
      refine .inr ⟨String.ofList parts.1, String.ofList parts.2, ?_, ?_, ?_⟩
      · apply String.toList_inj.mp
        rw [(splitAtMark?_append something found).1]
        simp
      · rw [offsetOf?, found]
        rfl
      · simp

/-- The first character with a property, or else the end, is behind all those without it. -/
theorem offsetOfFirst?_getD
    (holds : Char → Bool)
    (text : String) :
    (offsetOfFirst? holds text).getD text.utf8ByteSize =
      (String.ofList (text.toList.takeWhile fun character => !holds character)).utf8ByteSize := by
  rw [offsetOfFirst?]
  split
  · rfl
  · next none =>
      have all : text.toList.takeWhile (fun character => !holds character) = text.toList :=
        (List.takeWhile_prefix _).eq_of_length_le (Nat.le_of_not_lt none)
      rw [all, String.ofList_toList]
      rfl

end Text
end TableReach
