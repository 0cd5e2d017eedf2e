import TableReach.Failure
import TableReach.Proofs.Text.Offset

/-!
# The place that a message names

A message names a place by a line and a column.  The numbers are cut out by offsets
that are found in one part of the message after the other and added up.  No message
makes a cut fail, so the place is what the characters say: the numbers behind the
first marks, where both fit into 64 bits.
-/

namespace TableReach
namespace Position

/-! ## Numbers -/

theorem decimal_eq_ofDigitChars (digits : List Char) :
    decimal digits = Nat.ofDigitChars 10 digits 0 := by
  rw [Nat.ofDigitChars_eq_foldl, decimal]
  simp only [Nat.mul_comm]

/-- A number in decimal is read back if it fits into 64 bits. -/
theorem count?_toString (number : Nat) :
    count? (toString number).toList = if number < UInt64.size then some number else none := by
  have written : (toString number).toList = Nat.toDigits 10 number := by
    rw [Nat.toString_eq_repr, Nat.toList_repr]
  have digits : ∀ digit ∈ Nat.toDigits 10 number, digit.isDigit = true := fun digit listed =>
    Nat.isDigit_of_mem_toDigits (by decide) (by decide) listed
  have value : decimal (Nat.toDigits 10 number) = number := by
    rw [decimal_eq_ofDigitChars, Nat.ofDigitChars_ten_toDigits]
  have unsigned : ∀ rest, Nat.toDigits 10 number ≠ '+' :: rest := by
    intro rest equal
    have sign : '+'.isDigit = true := digits '+' (equal ▸ List.mem_cons_self)
    cases sign
  have isNumber : ((Nat.toDigits 10 number).isEmpty ||
      !(Nat.toDigits 10 number).all Char.isDigit) = false := by
    rw [List.all_eq_true.mpr digits]
    simp [Nat.toDigits_ne_nil]
  have fits : Nat.pow 2 64 = UInt64.size := rfl
  rw [written]
  unfold count?
  split
  · next rest equal => exact absurd equal (unsigned rest)
  · simp only [isNumber, value, fits, Bool.false_eq_true, if_false]

/-! ## Cutting out the numbers -/

/-- The place that the characters of a message name: the numbers behind the first marks. -/
def read? (message : List Char) : Option Position :=
  (Text.splitAtMark? lineMark.toList message).bind fun behindLine =>
    (Text.splitAtMark? columnMark.toList behindLine.2).bind fun behindColumn =>
      ofNumbers? (String.ofList behindColumn.1)
        (String.ofList (behindColumn.2.takeWhile Char.isDigit))

/-- The numbers that are cut out are the text before the mark and the digits behind it. -/
theorem cutOut_eq (before line behind : String) :
    cutOut (before ++ line ++ columnMark ++ behind) before.utf8ByteSize line.utf8ByteSize =
      .ok (ofNumbers? line (String.ofList (behind.toList.takeWhile Char.isDigit))) := by
  have lineCut := Text.slice_append before line (columnMark ++ behind)
  rw [← String.append_assoc] at lineCut
  have digitsAndRest : String.ofList (behind.toList.takeWhile Char.isDigit) ++
      String.ofList (behind.toList.dropWhile Char.isDigit) = behind := by
    rw [← String.ofList_append, List.takeWhile_append_dropWhile, String.ofList_toList]
  have columnCut := Text.slice_append (before ++ line ++ columnMark)
    (String.ofList (behind.toList.takeWhile Char.isDigit))
    (String.ofList (behind.toList.dropWhile Char.isDigit))
  rw [String.append_assoc, digitsAndRest] at columnCut
  rw [cutOut, lineCut]
  dsimp only [bind, Except.bind]
  rw [← String.utf8ByteSize_append, ← String.utf8ByteSize_append, Text.sliceFrom_append,
    Text.difference_append]
  dsimp only
  rw [Text.offsetOfFirst?_getD]
  simp only [Bool.not_not]
  rw [columnCut]
  rfl

/-- No message makes a cut fail, and what is cut out are the numbers behind the first marks. -/
theorem locate_eq (message : String) : locate message = .ok (read? message.toList) := by
  rw [locate, read?]
  rcases Text.offsetOf?_cases lineMark message (by decide) with
    ⟨missed, unsplit⟩ | ⟨before, behindLine, rfl, found, split⟩
  · rw [missed, unsplit]
    rfl
  · rw [found, split]
    dsimp only [bind, Except.bind, Option.bind_some]
    rw [← String.utf8ByteSize_append, Text.sliceFrom_append]
    dsimp only
    rcases Text.offsetOf?_cases columnMark behindLine (by decide) with
      ⟨missed, unsplit⟩ | ⟨line, behindColumn, rfl, columnFound, columnSplit⟩
    · rw [missed, unsplit]
      rfl
    · rw [columnFound, columnSplit, ← String.append_assoc, ← String.append_assoc]
      dsimp only [Option.bind_some]
      rw [cutOut_eq, String.ofList_toList]

theorem find?_eq (message : String) : find? message = read? message.toList := by
  rw [find?, locate_eq]

/-! ## Messages -/

/-- Two numbers in decimal make a place if both fit into 64 bits. -/
theorem ofNumbers?_toString (line column : Nat) :
    ofNumbers? (toString line) (toString column) =
      if line < UInt64.size ∧ column < UInt64.size then some { line := line, column := column }
      else none := by
  rw [ofNumbers?, count?_toString, count?_toString]
  by_cases lineFits : line < UInt64.size
  · by_cases columnFits : column < UInt64.size
    · simp [lineFits, columnFits]
    · simp [columnFits]
  · simp [lineFits]

/-- The digits of a number in decimal end where the text goes on with something else. -/
theorem takeWhile_toString_append
    {rest : List Char}
    (ends : rest.head?.any Char.isDigit = false)
    (number : Nat) :
    ((toString number).toList ++ rest).takeWhile Char.isDigit = (toString number).toList := by
  have digits : ∀ digit ∈ (toString number).toList, digit.isDigit = true := by
    rw [Nat.toString_eq_repr, Nat.toList_repr]
    exact fun digit listed => Nat.isDigit_of_mem_toDigits (by decide) (by decide) listed
  have none : rest.takeWhile Char.isDigit = [] := by
    cases rest with
    | nil => rfl
    | cons character others =>
        rw [List.takeWhile_cons, if_neg]
        simpa using ends
  rw [List.takeWhile_append_of_pos digits, none, List.append_nil]

/-- A message that names a place behind its first mark says where it is. -/
theorem read?_of_standsFirst
    {before : String}
    {rest : List Char}
    (first : Text.StandsFirst lineMark before)
    (ends : rest.head?.any Char.isDigit = false)
    (line column : Nat) :
    read? (before.toList ++ lineMark.toList ++ ((toString line).toList ++ (columnMark.toList ++
        ((toString column).toList ++ rest)))) =
      ofNumbers? (toString line) (toString column) := by
  have noComma : ',' ∉ (toString line).toList := by
    rw [Nat.toString_eq_repr, Nat.toList_repr]
    intro listed
    have comma : ','.isDigit = true :=
      Nat.isDigit_of_mem_toDigits (by decide) (by decide) listed
    cases comma
  have columnSplit : Text.splitAtMark? columnMark.toList ((toString line).toList ++
      (columnMark.toList ++ ((toString column).toList ++ rest))) =
        some ((toString line).toList, (toString column).toList ++ rest) :=
    Text.splitAtMark?_of_first_notMem noComma _
  rw [read?, first.splitAtMark?_eq (by decide), Option.bind_some, columnSplit, Option.bind_some,
    takeWhile_toString_append ends, String.ofList_toList, String.ofList_toList]

/-- A message in which one of the marks is missing names no place. -/
theorem read?_of_not_isInfix
    {message : List Char}
    (missing : ¬ lineMark.toList <:+: message ∨ ¬ columnMark.toList <:+: message) :
    read? message = none := by
  rw [read?]
  cases found : Text.splitAtMark? lineMark.toList message with
  | none => rfl
  | some parts =>
      have split := (Text.splitAtMark?_append (by decide) found).1
      have noLine : lineMark.toList <:+: message := ⟨parts.1, parts.2, split.symm⟩
      have noColumn : ¬ columnMark.toList <:+: parts.2 := by
        intro present
        apply missing.resolve_left (not_not_intro noLine)
        rw [split]
        exact present.trans (List.suffix_append _ _).isInfix
      rw [Option.bind_some,
        (Text.splitAtMark?_eq_none_iff_not_isInfix (by decide)).mpr noColumn]
      rfl

end Position

namespace Failure

open Position

theorem message_of_read?_eq_some
    {reason : String}
    {place : Position}
    (found : read? reason.toList = some place) :
    (invalidStatement reason).message =
      "SQL parse error at line " ++ toString place.line ++ ", column " ++
        toString place.column ++ ":\n  " ++ reason := by
  have shown : (invalidStatement reason).message = statementMessage reason := rfl
  rw [shown]
  unfold statementMessage
  rw [find?_eq, found]

theorem message_of_read?_eq_none
    {reason : String}
    (missed : read? reason.toList = none) :
    (invalidStatement reason).message = "SQL parse error:\n  " ++ reason := by
  have shown : (invalidStatement reason).message = statementMessage reason := rfl
  rw [shown]
  unfold statementMessage
  rw [find?_eq, missed]

/-- No message makes the search for a place fail.  A message that has a line and a column behind
its first mark is shown with them if both fit into 64 bits.  Otherwise, and where one of the marks
is missing, it is shown without a place. -/
theorem invalidStatement_names_place :
    (∀ reason : String, ∃ place, locate reason = .ok place) ∧
      (∀ (before rest : String) (line column : Nat),
        Text.StandsFirst "Line: " before → rest.toList.head?.any Char.isDigit = false →
          let reason := before ++ "Line: " ++ toString line ++ ", Column " ++ toString column ++ rest
          (line < UInt64.size ∧ column < UInt64.size →
            (invalidStatement reason).message =
              "SQL parse error at line " ++ toString line ++ ", column " ++ toString column ++
                ":\n  " ++ reason) ∧
          (UInt64.size ≤ line ∨ UInt64.size ≤ column →
            (invalidStatement reason).message = "SQL parse error:\n  " ++ reason)) ∧
      ∀ reason : String,
        ¬ "Line: ".toList <:+: reason.toList ∨ ¬ ", Column ".toList <:+: reason.toList →
          (invalidStatement reason).message = "SQL parse error:\n  " ++ reason := by
  refine ⟨fun reason => ⟨_, locate_eq reason⟩, ?_, ?_⟩
  · intro before rest line column first ends
    have place := read?_of_standsFirst first ends line column
    intro reason
    have written : reason.toList = before.toList ++ lineMark.toList ++ ((toString line).toList ++
        (columnMark.toList ++ ((toString column).toList ++ rest.toList))) := by
      simp [reason, lineMark, columnMark]
    rw [← written, ofNumbers?_toString] at place
    constructor
    · intro fit
      rw [if_pos fit] at place
      rw [message_of_read?_eq_some place]
    · intro large
      rw [if_neg (by omega)] at place
      exact message_of_read?_eq_none place
  · intro reason missing
    exact message_of_read?_eq_none (read?_of_not_isInfix missing)

/-- Behind a text that holds parts of the mark, the largest line of 64 bits is shown and the next one
is not; a message without one of the marks is shown without a place. -/
theorem largest_line_named :
    (Text.StandsFirst "Line: " "Line:é, Line " ∧
        " é".toList.head?.any Char.isDigit = false) ∧
      (invalidStatement ("Line:é, Line " ++ "Line: " ++ toString 18446744073709551615 ++
        ", Column " ++ toString 25 ++ " é")).message =
          "SQL parse error at line " ++ toString 18446744073709551615 ++ ", column " ++
            toString 25 ++ ":\n  " ++ ("Line:é, Line " ++ "Line: " ++
              toString 18446744073709551615 ++ ", Column " ++ toString 25 ++ " é") ∧
      (invalidStatement ("Line:é, Line " ++ "Line: " ++ toString 18446744073709551616 ++
        ", Column " ++ toString 25 ++ " é")).message =
          "SQL parse error:\n  " ++ ("Line:é, Line " ++ "Line: " ++
            toString 18446744073709551616 ++ ", Column " ++ toString 25 ++ " é") ∧
      (invalidStatement "Line: 3, Col 25").message = "SQL parse error:\n  " ++ "Line: 3, Col 25" := by
  have first : Text.StandsFirst "Line: " "Line:é, Line " :=
    (Text.standsFirst_iff (by decide)).mpr (by decide)
  have ends : " é".toList.head?.any Char.isDigit = false := by decide
  have shown := (invalidStatement_names_place.2.1 _ _ 18446744073709551615 25 first ends).1
  have hidden := (invalidStatement_names_place.2.1 _ _ 18446744073709551616 25 first ends).2
  have missing : ¬ ", Column ".toList <:+: "Line: 3, Col 25".toList :=
    (Text.splitAtMark?_eq_none_iff_not_isInfix (by decide)).mp (by decide)
  exact ⟨⟨first, ends⟩, shown (by decide), hidden (by decide),
    invalidStatement_names_place.2.2 _ (.inr missing)⟩

end Failure
end TableReach
