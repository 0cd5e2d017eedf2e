import TableReach.Text.Search
import Mathlib.Data.List.Basic

/-!
# Laws of searching

What the search of a text finds, and when it finds nothing.
-/

namespace TableReach
namespace Text

/-- A text holds a part exactly if the part stands somewhere in it. -/
theorem contains_iff
    {text part : List Char} : contains text part = true ↔ part <:+: text := by
  induction text with
  | nil => simp [contains]
  | cons character rest inductionHypothesis =>
      unfold contains
      rw [List.infix_cons_iff, ← inductionHypothesis]
      simp

/-- A mark stands at the start of a text exactly if the text is the mark and what is left. -/
theorem afterExact?_eq_some_iff
    {mark text rest : List Char} : afterExact? mark text = some rest ↔ text = mark ++ rest := by
  induction mark generalizing text with
  | nil => simp [afterExact?]
  | cons expected mark inductionHypothesis =>
      cases text with
      | nil => simp [afterExact?]
      | cons character others =>
          rw [afterExact?, List.cons_append, List.cons.injEq]
          by_cases same : character = expected
          · simp [same, inductionHypothesis]
          · simp [same]

/-- A mark does not stand at the start of a text exactly if the text does not start with it. -/
theorem afterExact?_eq_none_iff
    {mark text : List Char} : afterExact? mark text = none ↔ ¬ mark <+: text := by
  rw [Option.eq_none_iff_forall_ne_some]
  constructor
  · rintro never ⟨rest, equal⟩
    exact never rest (afterExact?_eq_some_iff.mpr equal.symm)
  · intro never rest found
    exact never ⟨rest, (afterExact?_eq_some_iff.mp found).symm⟩

/-- A keyword stands at the start of a text exactly if the text starts with its letters in any
case. -/
theorem afterKeyword?_eq_some_iff
    {word text rest : List Char} :
    afterKeyword? word text = some rest ↔ ∃ start, text = start ++ rest ∧ start.map fold = word := by
  induction word generalizing text with
  | nil => simp [afterKeyword?]
  | cons letter word inductionHypothesis =>
      cases text with
      | nil => simp [afterKeyword?]
      | cons character others =>
          rw [afterKeyword?]
          constructor
          · intro found
            split at found
            · next same =>
                obtain ⟨start, rfl, letters⟩ := inductionHypothesis.mp found
                exact ⟨character :: start, rfl, by rw [List.map_cons, letters, beq_iff_eq.mp same]⟩
            · cases found
          · rintro ⟨start, split, letters⟩
            cases start with
            | nil => cases letters
            | cons first start =>
                obtain ⟨rfl, rfl⟩ := List.cons.inj split
                obtain ⟨same, sameOthers⟩ := List.cons.inj letters
                rw [if_pos (beq_iff_eq.mpr same)]
                exact inductionHypothesis.mpr ⟨start, rfl, sameOthers⟩

theorem afterKeyword?_suffix
    {word text rest : List Char}
    (found : afterKeyword? word text = some rest) : rest <:+ text := by
  obtain ⟨start, rfl, _⟩ := afterKeyword?_eq_some_iff.mp found
  exact List.suffix_append start rest

/-- Blanks at the start of a text, and where the text goes on behind them. -/
theorem exists_of_afterBlanks?
    {text rest : List Char}
    (found : afterBlanks? text = some rest) :
    ∃ character others,
      isBlank character = true ∧ text = character :: others ∧ rest = trimLeft others := by
  cases text with
  | nil => cases found
  | cons character others =>
      rw [afterBlanks?] at found
      split at found
      · next blank => exact ⟨character, others, blank, rfl, (Option.some_inj.mp found).symm⟩
      · cases found

theorem afterBlanks?_suffix
    {text rest : List Char}
    (found : afterBlanks? text = some rest) : rest <:+ text := by
  obtain ⟨character, others, _, rfl, rfl⟩ := exists_of_afterBlanks? found
  exact (List.dropWhile_suffix _).trans (List.suffix_cons _ _)

/-- Where a text is split at a mark depends on nothing behind the mark. -/
theorem splitAtMark?_append
    {mark text inside behind : List Char}
    (something : mark ≠ [])
    (found : splitAtMark? mark text = some (inside, behind)) :
    text = inside ++ mark ++ behind ∧
      ∀ left, splitAtMark? mark (inside ++ mark ++ left) = some (inside, left) := by
  induction text generalizing inside with
  | nil => exact nomatch found
  | cons character rest inductionHypothesis =>
      rw [splitAtMark?] at found
      split at found
      · next remaining starts =>
          obtain ⟨rfl, rfl⟩ := Prod.mk.inj (Option.some_inj.mp found)
          refine ⟨afterExact?_eq_some_iff.mp starts, ?_⟩
          intro left
          obtain ⟨first, others, rfl⟩ := List.exists_cons_of_ne_nil something
          have here : afterExact? (first :: others) (first :: others ++ left) = some left :=
            afterExact?_eq_some_iff.mpr rfl
          rw [List.nil_append, List.cons_append, splitAtMark?, ← List.cons_append, here]
      · next later =>
          obtain ⟨parts, foundLater, equal⟩ := Option.map_eq_some_iff.mp found
          obtain ⟨rfl, rfl⟩ := Prod.mk.inj equal
          obtain ⟨split, others⟩ := inductionHypothesis foundLater
          refine ⟨by rw [split]; simp, ?_⟩
          intro left
          have notHere : afterExact? mark (character :: (parts.1 ++ mark ++ left)) = none := by
            rw [afterExact?_eq_none_iff] at later ⊢
            intro starts
            have inside : character :: (parts.1 ++ mark) <+:
                character :: (parts.1 ++ mark ++ left) :=
              ⟨left, rfl⟩
            have shorter : mark <+: character :: (parts.1 ++ mark) := by
              apply List.prefix_of_prefix_length_le starts inside
              rw [List.length_cons, List.length_append]
              omega
            exact later (shorter.trans ⟨parts.2, by rw [split]; simp⟩)
          rw [List.cons_append, List.cons_append, splitAtMark?, notHere, others left]
          rfl

/-- A text is split at a mark whose first character does not stand before. -/
theorem splitAtMark?_of_first_notMem
    {first : Char}
    {mark inside : List Char}
    (absent : first ∉ inside)
    (rest : List Char) :
    splitAtMark? (first :: mark) (inside ++ first :: (mark ++ rest)) = some (inside, rest) := by
  induction inside with
  | nil =>
      have here : afterExact? (first :: mark) (first :: (mark ++ rest)) = some rest :=
        afterExact?_eq_some_iff.mpr rfl
      rw [List.nil_append, splitAtMark?, here]
  | cons character inside inductionHypothesis =>
      rw [List.mem_cons, not_or] at absent
      simp [splitAtMark?, afterExact?, Ne.symm absent.1, inductionHypothesis absent.2]

theorem getLast?_append_or
    (first second : List Char)
    (before : Option Char) :
    (first ++ second).getLast?.or before = second.getLast?.or (first.getLast?.or before) := by
  rw [List.getLast?_append, Option.or_assoc]

theorem consumed_append (start rest : List Char) : consumed (start ++ rest) rest = start := by
  rw [consumed, List.length_append, Nat.add_sub_cancel, List.take_left]

/-- The search goes on behind what it skips and remembers the last character of it. -/
theorem piecesFrom_skip
    (recognize : Recognizer α)
    (before : Option Char)
    (start : List Char)
    (last : Char)
    (rest : List Char) :
    piecesFrom recognize before (start.length + 1) (start ++ last :: rest) =
      piecesFrom recognize (some last) 0 rest := by
  induction start generalizing before with
  | nil => rfl
  | cons character start inductionHypothesis =>
      rw [List.length_cons, List.cons_append, piecesFrom, inductionHypothesis]

/-- The search goes on behind a match and remembers the last character of it. -/
theorem piecesFrom_of_found
    {recognize : Recognizer α}
    {before : Option Char}
    {text start rest : List Char}
    {last : Char}
    {value : α}
    (split : text = start ++ last :: rest)
    (found : recognize before text = some (value, rest)) :
    piecesFrom recognize before 0 text =
      .found value :: piecesFrom recognize (some last) 0 rest := by
  subst split
  cases start with
  | nil =>
      rw [List.nil_append] at found
      rw [List.nil_append, piecesFrom, found]
      dsimp only
      rw [Nat.sub_self]
  | cons first start =>
      rw [List.cons_append] at found
      have skipped : (start ++ last :: rest).length - rest.length = start.length + 1 := by
        rw [List.length_append, List.length_cons]
        omega
      rw [List.cons_append, piecesFrom, found]
      dsimp only
      rw [skipped, piecesFrom_skip]

theorem Piece.splice_kept
    (character : Char)
    (parts : List (Piece (List Char))) :
    Piece.splice (.kept character :: parts) = character :: Piece.splice parts :=
  rfl

theorem Piece.splice_found
    (replacement : List Char)
    (parts : List (Piece (List Char))) :
    Piece.splice (.found replacement :: parts) = replacement ++ Piece.splice parts :=
  rfl

/-- A recognizer finds nothing anywhere in a text. -/
def Misses
    (recognize : Recognizer α)
    (text : List Char) : Prop :=
  ∀ before rest, rest <:+ text → recognize before rest = none

namespace Misses

variable
  {text : List Char}

/-- Where nothing is found every character is kept. -/
theorem pieces_eq
    {recognize : Recognizer α}
    (misses : Misses recognize text) : pieces recognize text = text.map .kept := by
  unfold pieces
  generalize none = before
  induction text generalizing before with
  | nil => rfl
  | cons character rest inductionHypothesis =>
      have others : Misses recognize rest := fun before end_ suffix =>
        misses before end_ (suffix.trans (List.suffix_cons _ _))
      rw [piecesFrom, misses before _ (List.suffix_refl _), List.map_cons,
        inductionHypothesis others]

theorem replaceAll_eq
    {recognize : Recognizer (List Char)}
    (misses : Misses recognize text) : replaceAll recognize text = text := by
  rw [replaceAll, misses.pieces_eq, Piece.splice, List.flatMap_map]
  exact List.flatMap_singleton' text

theorem findAll_eq
    {recognize : Recognizer α}
    (misses : Misses recognize text) : findAll recognize text = [] := by
  rw [findAll, misses.pieces_eq, Piece.values, List.filterMap_map]
  exact List.filterMap_eq_nil_iff.mpr fun _ _ => rfl

end Misses

section Replace

variable
  {find : List Char → Option (List Char × List Char)}
  {start rest : List Char}

/-- What stands before a text does not matter to a search that does not look at it. -/
theorem piecesFrom_of_blind
    (find : List Char → Option (α × List Char))
    (before : Option Char)
    (text : List Char) :
    piecesFrom (fun _ => find) before 0 text = pieces (fun _ => find) text := by
  cases text with
  | nil => rfl
  | cons character rest => rfl

theorem replaceAll_cons
    {character : Char}
    (missed : find (character :: rest) = none) :
    replaceAll (fun _ => find) (character :: rest) =
      character :: replaceAll (fun _ => find) rest := by
  rw [replaceAll, pieces, piecesFrom, missed]
  dsimp only
  rw [Piece.splice_kept, piecesFrom_of_blind, replaceAll]

/-- A match is replaced. -/
theorem replaceAll_append
    {replacement : List Char}
    (something : start ≠ [])
    (found : find (start ++ rest) = some (replacement, rest)) :
    replaceAll (fun _ => find) (start ++ rest) =
      replacement ++ replaceAll (fun _ => find) rest := by
  obtain ⟨others, last, rfl⟩ := (List.eq_nil_or_concat' start).resolve_left something
  have split : others ++ [last] ++ rest = others ++ last :: rest := by
    rw [List.append_assoc, List.singleton_append]
  rw [replaceAll, pieces, piecesFrom_of_found split found, Piece.splice_found,
    piecesFrom_of_blind, replaceAll]

/-- A part of a text in which no match starts is kept. -/
theorem replaceAll_append_of_suffixes
    (missed : ∀ part, part ≠ [] → part <:+ start → find (part ++ rest) = none) :
    replaceAll (fun _ => find) (start ++ rest) = start ++ replaceAll (fun _ => find) rest := by
  induction start with
  | nil => rfl
  | cons character start inductionHypothesis =>
      have here := missed _ (List.cons_ne_nil character start) (List.suffix_refl _)
      have others (part : List Char) (something : part ≠ []) (suffix : part <:+ start) :
          find (part ++ rest) = none :=
        missed part something (suffix.trans (List.suffix_cons _ _))
      rw [List.cons_append] at here
      rw [List.cons_append, replaceAll_cons here, inductionHypothesis others, List.cons_append]

/-- A part in which no character starts a match is kept. -/
theorem replaceAll_append_of_missed
    (missed : ∀ character ∈ start, ∀ rest, find (character :: rest) = none) :
    replaceAll (fun _ => find) (start ++ rest) = start ++ replaceAll (fun _ => find) rest := by
  apply replaceAll_append_of_suffixes
  intro part something suffix
  obtain ⟨character, others, rfl⟩ := List.exists_cons_of_ne_nil something
  exact missed character (suffix.subset List.mem_cons_self) (others ++ rest)

variable
  {mark replacement : List Char}

theorem replaceExact_cons
    {character : Char}
    (missed : afterExact? mark (character :: rest) = none) :
    replaceExact mark replacement (character :: rest) =
      character :: replaceExact mark replacement rest :=
  replaceAll_cons (Option.map_eq_none_iff.mpr missed)

theorem replaceExact_append
    (something : mark ≠ [])
    (rest : List Char) :
    replaceExact mark replacement (mark ++ rest) =
      replacement ++ replaceExact mark replacement rest := by
  apply replaceAll_append something
  rw [afterExact?_eq_some_iff.mpr rfl]
  rfl

/-- A part that does not hold the first character of a mark is kept. -/
theorem replaceExact_append_of_notMem
    {first : Char}
    (absent : first ∉ start)
    (rest : List Char) :
    replaceExact (first :: mark) replacement (start ++ rest) =
      start ++ replaceExact (first :: mark) replacement rest := by
  apply replaceAll_append_of_missed
  intro character present rest
  have different : character ≠ first := ne_of_mem_of_not_mem present absent
  rw [afterExact?, if_neg (by simpa using different)]
  rfl

/-- Replacing a character changes a text character by character. -/
theorem replaceExact_singleton
    (character : Char)
    (text : List Char) :
    replaceExact [character] replacement text =
      text.flatMap fun other => if other = character then replacement else [other] := by
  induction text with
  | nil => rfl
  | cons first rest inductionHypothesis =>
      rw [List.flatMap_cons, ← inductionHypothesis]
      split
      · next same =>
          rw [same]
          exact replaceExact_append (List.cons_ne_nil _ _) rest
      · next different =>
          have absent : character ∉ [first] := by simpa using Ne.symm different
          exact replaceExact_append_of_notMem absent rest

end Replace

end Text
end TableReach
