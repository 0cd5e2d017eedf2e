import TableReach.Template.Normal
import TableReach.Proofs.Text.Blank
import TableReach.Proofs.Text.Search
import Mathlib.Data.List.Basic

/-!
# Texts without placeholders

A placeholder is read from left to right: its mark, its opening brace, its closing brace.
A replacement that leaves no part of a mark and brace behind without something between
them closes no placeholder that the text did not close before.
-/

namespace TableReach
namespace Template

open Text

/-- A placeholder stands in the text: a mark, and braces without a closing one between them. -/
def HoldsPlaceholder (text : List Char) : Prop :=
  ∃ mark name, (mark = '#' ∨ mark = '$') ∧ '\x7d' ∉ name ∧
    mark :: '\x7b' :: name ++ ['\x7d'] <:+: text

theorem HoldsPlaceholder.of_part
    {text part : List Char}
    (inside : part <:+: text)
    (holds : HoldsPlaceholder part) : HoldsPlaceholder text := by
  obtain ⟨mark, name, isMark, noEnd, found⟩ := holds
  exact ⟨mark, name, isMark, noEnd, found.trans inside⟩

/-- How much of a placeholder was read. -/
inductive Opening where
  /-- Nothing. -/
  | shut
  /-- Its mark, as the last character. -/
  | marked
  /-- Its mark and its opening brace, somewhere. -/
  | opened
deriving DecidableEq

namespace Opening

/-- Read one more character. -/
def read (state : Opening) (character : Char) : Opening :=
  if state = opened ∨ state = marked ∧ character = '\x7b' then opened
  else if character = '#' ∨ character = '$' then marked
  else shut

/-- At least as much was read. -/
def AtMost (state other : Opening) : Prop :=
  state = shut ∨ state = other ∨ other = opened

/-- Reading a text closes a placeholder. -/
def closes : Opening → List Char → Bool
  | _, [] => false
  | state, character :: rest =>
      (state = opened && character = '\x7d') || closes (state.read character) rest

variable
  {state other : Opening}

/-- A placeholder is opened before, or by a brace behind its mark. -/
theorem eq_of_read_eq_opened
    {character : Char}
    (isOpened : state.read character = opened) :
    state = opened ∨ state = marked ∧ character = '\x7b' := by
  unfold read at isOpened
  split at isOpened
  · assumption
  · split at isOpened <;> cases isOpened

/-- Only a mark is the mark of a placeholder. -/
theorem eq_of_read_eq_marked
    {character : Char}
    (isMarked : state.read character = marked) : character = '#' ∨ character = '$' := by
  unfold read at isMarked
  split at isMarked
  · cases isMarked
  · split at isMarked
    · assumption
    · cases isMarked

@[simp]
theorem read_opened
    (character : Char) : opened.read character = opened :=
  rfl

@[simp]
theorem foldl_read_opened
    (text : List Char) : text.foldl read opened = opened := by
  induction text with
  | nil => rfl
  | cons character rest inductionHypothesis => exact inductionHypothesis

/-- Where nothing was read, at least as much was read anywhere. -/
theorem AtMost.shut
    (other : Opening) : AtMost shut other :=
  Or.inl rfl

theorem AtMost.refl
    (state : Opening) : AtMost state state :=
  Or.inr (Or.inl rfl)

/-- Reading on keeps what was read at least. -/
theorem AtMost.read
    (atMost : AtMost state other)
    (character : Char) : AtMost (state.read character) (other.read character) := by
  rcases atMost with rfl | rfl | rfl
  · cases other with
    | shut => exact AtMost.refl _
    | marked =>
        by_cases brace : character = '\x7b'
        · exact Or.inl (by simp [Opening.read, brace])
        · exact Or.inr (Or.inl (by simp [Opening.read, brace]))
    | opened => exact Or.inr (Or.inr rfl)
  · exact AtMost.refl _
  · exact Or.inr (Or.inr rfl)

theorem AtMost.foldl
    (atMost : AtMost state other)
    (text : List Char) : AtMost (text.foldl Opening.read state) (text.foldl Opening.read other) := by
  induction text generalizing state other with
  | nil => exact atMost
  | cons character rest inductionHypothesis => exact inductionHypothesis (atMost.read character)

/-- What closes a placeholder closes it where more was read before. -/
theorem AtMost.closes
    (atMost : AtMost state other)
    {text : List Char}
    (closed : closes state text = true) : closes other text = true := by
  induction text generalizing state other with
  | nil => exact closed
  | cons character rest inductionHypothesis =>
      rw [Opening.closes, Bool.or_eq_true] at closed ⊢
      refine closed.imp ?_ (inductionHypothesis (atMost.read character))
      intro here
      rw [Bool.and_eq_true, decide_eq_true_eq] at here ⊢
      rcases atMost with rfl | rfl | rfl
      · exact nomatch here.1
      · exact here
      · exact ⟨rfl, here.2⟩

/-- A placeholder is closed in the first part of a text or behind it. -/
theorem closes_append
    (state : Opening)
    (start rest : List Char) :
    closes state (start ++ rest) = (closes state start || closes (start.foldl read state) rest) := by
  induction start generalizing state with
  | nil => rfl
  | cons character start inductionHypothesis =>
      rw [List.cons_append, closes, inductionHypothesis, closes, List.foldl_cons, Bool.or_assoc]

theorem closes_shut_cons
    (character : Char)
    (rest : List Char) : closes shut (character :: rest) = closes (shut.read character) rest :=
  rfl

theorem closes_marked_cons
    (character : Char)
    (rest : List Char) : closes marked (character :: rest) = closes (marked.read character) rest :=
  rfl

/-- What was opened is closed by the first closing brace. -/
theorem closes_opened_iff
    {text : List Char} : closes opened text = true ↔ '\x7d' ∈ text := by
  induction text with
  | nil => simp [closes]
  | cons character rest inductionHypothesis =>
      rw [closes, read_opened, Bool.or_eq_true, inductionHypothesis, List.mem_cons]
      simp [eq_comm]

/-- A brace behind the mark opens a placeholder. -/
theorem closes_marked_iff
    {text : List Char} :
    closes marked text = true ↔
      (∃ rest, text = '\x7b' :: rest ∧ '\x7d' ∈ rest) ∨ closes shut text = true := by
  constructor
  · intro closed
    cases text with
    | nil => cases closed
    | cons character rest =>
        by_cases brace : character = '\x7b'
        · rw [brace] at closed ⊢
          exact Or.inl ⟨rest, rfl, closes_opened_iff.mp closed⟩
        · have same : marked.read character = shut.read character := by simp [read, brace]
          rw [closes_marked_cons, same, ← closes_shut_cons] at closed
          exact Or.inr closed
  · rintro (⟨rest, rfl, ends⟩ | closed)
    · exact closes_opened_iff.mpr ends
    · exact (AtMost.shut marked).closes closed

/-- Reading a text closes a placeholder exactly if the text holds one. -/
theorem closes_shut_iff
    {text : List Char} : closes shut text = true ↔ HoldsPlaceholder text := by
  constructor
  · intro closed
    induction text with
    | nil => cases closed
    | cons character rest inductionHypothesis =>
        by_cases mark : character = '#' ∨ character = '$'
        · have isMarked : shut.read character = marked := by simp [read, mark]
          rw [closes_shut_cons, isMarked, closes_marked_iff] at closed
          rcases closed with ⟨more, rfl, ends⟩ | later
          · obtain ⟨name, tail, rfl, noEnd⟩ := List.eq_append_cons_of_mem ends
            exact ⟨character, name, mark, noEnd, [], tail, by simp⟩
          · exact (inductionHypothesis later).of_part (List.suffix_cons _ _).isInfix
        · have isShut : shut.read character = shut := by simp [read, mark]
          rw [closes_shut_cons, isShut] at closed
          exact (inductionHypothesis closed).of_part (List.suffix_cons _ _).isInfix
  · rintro ⟨mark, name, isMark, -, start, tail, rfl⟩
    have isMarked : shut.read mark = marked := by simp [read, isMark]
    have here : closes shut (mark :: '\x7b' :: name ++ ['\x7d'] ++ tail) = true := by
      rw [List.cons_append, List.cons_append, List.cons_append, closes_shut_cons, isMarked,
        closes_marked_iff]
      exact Or.inl ⟨_, rfl, by simp⟩
    rw [List.append_assoc, closes_append, (AtMost.shut _).closes here, Bool.or_true]

end Opening

/-- A character that is no part of the marks of a placeholder. -/
def isCalm (character : Char) : Bool :=
  character != '#' && character != '$' && character != '\x7b' && character != '\x7d'

namespace Opening

/-- After a character that is calm, a placeholder is open or none is. -/
theorem read_of_isCalm
    {character : Char}
    (calm : isCalm character = true)
    (state : Opening) : state.read character = if state = opened then opened else shut := by
  simp only [isCalm, Bool.and_eq_true, bne_iff_ne] at calm
  cases state <;> simp [read, calm]

theorem closes_of_isCalm
    {text : List Char}
    (calm : ∀ character ∈ text, isCalm character = true)
    (state : Opening) : closes state text = false := by
  rw [← Bool.not_eq_true]
  intro closed
  have ends := closes_opened_iff.mp (AtMost.closes (Or.inr (Or.inr rfl)) closed)
  exact nomatch calm _ ends

/-- Behind a calm text, a placeholder is open or none is. -/
theorem foldl_read_of_isCalm
    {text : List Char}
    (something : text ≠ [])
    (calm : ∀ character ∈ text, isCalm character = true)
    (state : Opening) : text.foldl read state = if state = opened then opened else shut := by
  induction text generalizing state with
  | nil => exact absurd rfl something
  | cons character rest inductionHypothesis =>
      rw [List.forall_mem_cons] at calm
      rw [List.foldl_cons, read_of_isCalm calm.1]
      by_cases alone : rest = []
      · rw [alone]
        rfl
      · rw [inductionHypothesis alone calm.2]
        cases state <;> rfl

end Opening

/-- What takes the place of a part of a text closes no placeholder that the part did not close, and
leaves no more of one open. -/
def Shelters (replacement taken : List Char) : Prop :=
  ∀ state other : Opening, state.AtMost other →
    (Opening.closes state replacement = true → Opening.closes other taken = true) ∧
      Opening.AtMost (replacement.foldl Opening.read state) (taken.foldl Opening.read other)

/-- Something calm may take the place of anything. -/
theorem Shelters.of_isCalm
    {replacement : List Char}
    (something : replacement ≠ [])
    (calm : ∀ character ∈ replacement, isCalm character = true)
    (taken : List Char) : Shelters replacement taken := by
  intro state other atMost
  constructor
  · intro closed
    rw [Opening.closes_of_isCalm calm] at closed
    cases closed
  · rw [Opening.foldl_read_of_isCalm something calm]
    split
    · next isOpened =>
        rcases atMost with shut | same | more
        · rw [shut] at isOpened
          cases isOpened
        · rw [← same, isOpened, Opening.foldl_read_opened]
          exact Opening.AtMost.refl _
        · rw [more, Opening.foldl_read_opened]
          exact Opening.AtMost.refl _
    · exact Opening.AtMost.shut _

/-- Replacements side by side. -/
theorem Shelters.append
    {first second takenFirst takenSecond : List Char}
    (shelters : Shelters first takenFirst)
    (sheltersNext : Shelters second takenSecond) :
    Shelters (first ++ second) (takenFirst ++ takenSecond) := by
  intro state other atMost
  obtain ⟨closed, atMostNext⟩ := shelters state other atMost
  obtain ⟨closedNext, atMostLast⟩ := sheltersNext _ _ atMostNext
  simp only [Opening.closes_append, List.foldl_append, Bool.or_eq_true]
  exact ⟨Or.imp closed closedNext, atMostLast⟩

theorem Shelters.refl (part : List Char) : Shelters part part :=
  fun _ _ atMost => ⟨atMost.closes, atMost.foldl part⟩

/-- Something of the text stands in front of the rest of it. -/
def IsBehind (rest text : List Char) : Prop :=
  ∃ taken, taken ≠ [] ∧ text = taken ++ rest

theorem IsBehind.of_suffix
    {text next rest : List Char}
    (behind : IsBehind next text)
    (suffix : rest <:+ next) : IsBehind rest text := by
  obtain ⟨taken, something, rfl⟩ := behind
  obtain ⟨more, rfl⟩ := suffix
  exact ⟨taken ++ more, List.append_ne_nil_of_left_ne_nil something _, by rw [List.append_assoc]⟩

/-- What a recognizer puts in the place of a match closes no placeholder, unless it leaves nothing
there; and it leaves nothing only at an end of the text. -/
def IsHarmless (recognize : Recognizer (List Char)) : Prop :=
  ∀ (before : Option Char) (text replacement rest : List Char),
    recognize before text = some (replacement, rest) →
      ∃ taken, taken ≠ [] ∧ text = taken ++ rest ∧
        (Shelters replacement taken ∨ replacement = [] ∧ (before = none ∨ rest = []))

namespace IsHarmless

variable
  {recognize : Recognizer (List Char)}

/-- Putting something calm in the place of every match is harmless. -/
theorem of_isCalm
    (calm : ∀ (before : Option Char) (text replacement rest : List Char),
      recognize before text = some (replacement, rest) →
        IsBehind rest text ∧ replacement ≠ [] ∧
          ∀ character ∈ replacement, isCalm character = true) : IsHarmless recognize := by
  intro before text replacement rest found
  obtain ⟨⟨taken, more, whole⟩, something, calmHere⟩ := calm _ _ _ _ found
  exact ⟨taken, more, whole, Or.inl (Shelters.of_isCalm something calmHere taken)⟩

/-- Harmless replacements close no placeholder, whatever was read before. -/
theorem closes_splice
    (harmless : IsHarmless recognize)
    {before : Option Char}
    {text : List Char}
    {state other : Opening}
    (atMost : state.AtMost other)
    (starts : before = none → state = .shut)
    (closed : Opening.closes state (Piece.splice (piecesFrom recognize before 0 text)) = true) :
    Opening.closes other text = true := by
  -- The induction is on the length of the text: behind a match the search goes on with what is left.
  induction size : text.length using Nat.strongRecOn generalizing before text state other with
  | _ size inductionHypothesis =>
      subst size
      cases text with
      | nil => exact closed
      | cons character others =>
          cases found : recognize before (character :: others) with
          | none =>
              rw [piecesFrom, found, Piece.splice_kept, ← List.singleton_append,
                Opening.closes_append, Bool.or_eq_true] at closed
              rw [← List.singleton_append, Opening.closes_append, Bool.or_eq_true]
              refine closed.imp atMost.closes fun later => ?_
              refine inductionHypothesis others.length (Nat.lt_succ_self _) (atMost.read character)
                ?_ later rfl
              rintro ⟨⟩
          | some result =>
              obtain ⟨taken, something, whole, sheltered⟩ := harmless _ _ _ _ found
              obtain ⟨start, last, rfl⟩ := (List.eq_nil_or_concat' taken).resolve_left something
              have split : character :: others = start ++ last :: result.2 := by
                rw [whole, List.append_assoc, List.singleton_append]
              have shorter : result.2.length < (character :: others).length := by
                rw [split, List.length_append, List.length_cons]
                omega
              rw [piecesFrom_of_found split found, Piece.splice_found, Opening.closes_append,
                Bool.or_eq_true] at closed
              rw [whole, Opening.closes_append, Bool.or_eq_true]
              rcases sheltered with shelters | ⟨nothing, first | ending⟩
              · obtain ⟨closedHere, atMostBehind⟩ := shelters _ _ atMost
                refine closed.imp closedHere fun later => ?_
                refine inductionHypothesis _ shorter atMostBehind ?_ later rfl
                rintro ⟨⟩
              · rw [nothing, starts first] at closed
                have later := closed.resolve_left Bool.false_ne_true
                refine Or.inr (inductionHypothesis _ shorter (Opening.AtMost.shut _) ?_ later rfl)
                rintro ⟨⟩
              · rw [nothing, ending] at closed
                exact absurd closed (by simp [Opening.closes, piecesFrom, Piece.splice])

/-- Harmless replacements put no placeholder into a text. -/
theorem of_replaceAll
    (harmless : IsHarmless recognize)
    {text : List Char}
    (holds : HoldsPlaceholder (replaceAll recognize text)) : HoldsPlaceholder text := by
  rw [← Opening.closes_shut_iff] at holds ⊢
  exact harmless.closes_splice (Opening.AtMost.refl _) (fun _ => rfl) holds

end IsHarmless

/-- A text is not split at a character that it does not hold. -/
theorem splitAtMark?_eq_none_iff
    {mark : Char}
    {text : List Char} : splitAtMark? [mark] text = none ↔ mark ∉ text := by
  induction text with
  | nil => simp [splitAtMark?]
  | cons character rest inductionHypothesis =>
      by_cases same : character = mark
      · simp [splitAtMark?, afterExact?, same]
      · simp [splitAtMark?, afterExact?, same, Ne.symm same, inductionHypothesis]

theorem splitAtMark?_of_notMem
    {mark : Char}
    {inside rest : List Char}
    (absent : mark ∉ inside) : splitAtMark? [mark] (inside ++ mark :: rest) = some (inside, rest) :=
  splitAtMark?_of_first_notMem absent rest

/-- A text is split at the first of the characters. -/
theorem notMem_of_splitAtMark?
    {mark : Char}
    {text inside behind : List Char}
    (found : splitAtMark? [mark] text = some (inside, behind)) : mark ∉ inside := by
  induction text generalizing inside with
  | nil => cases found
  | cons character rest inductionHypothesis =>
      rw [splitAtMark?] at found
      split at found
      · obtain ⟨rfl, rfl⟩ := Prod.mk.inj (Option.some_inj.mp found)
        exact List.not_mem_nil
      · next other =>
          obtain ⟨parts, foundLater, equal⟩ := Option.map_eq_some_iff.mp found
          obtain ⟨rfl, rfl⟩ := Prod.mk.inj equal
          rw [List.mem_cons, not_or]
          refine ⟨?_, inductionHypothesis foundLater⟩
          rintro rfl
          simp [afterExact?] at other

/-- A placeholder that is found stands at the start of the text. -/
theorem exists_of_placeholder
    {before : Option Char}
    {text replacement rest : List Char}
    (found : placeholder before text = some (replacement, rest)) :
    replacement = ['1'] ∧ ∃ mark name, (mark = '#' ∨ mark = '$') ∧ '\x7d' ∉ name ∧
      text = mark :: '\x7b' :: name ++ ['\x7d'] ++ rest := by
  unfold placeholder at found
  split at found
  · next mark behind =>
      split at found
      · next isMark =>
          obtain ⟨⟨name, tail⟩, split, equal⟩ := Option.map_eq_some_iff.mp found
          obtain ⟨rfl, rfl⟩ := Prod.mk.inj equal
          refine ⟨rfl, mark, name, by simpa using isMark, notMem_of_splitAtMark? split, ?_⟩
          rw [(splitAtMark?_append (List.cons_ne_nil _ _) split).1]
          rfl
      · cases found
  · cases found

/-- Where a mark and an opening brace are no placeholder, no closing brace follows. -/
theorem notMem_of_placeholder
    {before : Option Char}
    {mark : Char}
    {rest : List Char}
    (isMark : mark = '#' ∨ mark = '$')
    (missed : placeholder before (mark :: '\x7b' :: rest) = none) : '\x7d' ∉ rest := by
  rw [placeholder, if_pos (by simpa using isMark), Option.map_eq_none_iff] at missed
  exact splitAtMark?_eq_none_iff.mp missed

/-- No placeholder is closed where every placeholder is replaced, unless one was open before. -/
theorem Opening.closes_splice_placeholder
    {before : Option Char}
    {text : List Char}
    {state : Opening}
    (opened : state = .opened → '\x7d' ∉ text)
    (marked : state = .marked → ∀ rest, text = '\x7b' :: rest → '\x7d' ∉ rest) :
    closes state (Piece.splice (piecesFrom placeholder before 0 text)) = false := by
  induction size : text.length using Nat.strongRecOn generalizing before text state with
  | _ size inductionHypothesis =>
      subst size
      cases text with
      | nil => rfl
      | cons character others =>
          cases found : placeholder before (character :: others) with
          | none =>
              rw [piecesFrom, found, Piece.splice_kept, closes, Bool.or_eq_false_iff]
              refine ⟨?_, inductionHypothesis others.length (Nat.lt_succ_self _) ?_ ?_ rfl⟩
              · rw [← Bool.not_eq_true, Bool.and_eq_true, decide_eq_true_eq, decide_eq_true_eq]
                rintro ⟨isOpened, rfl⟩
                exact opened isOpened List.mem_cons_self
              · intro isOpened
                rcases eq_of_read_eq_opened isOpened with already | ⟨isMarked, rfl⟩
                · exact fun present => opened already (List.mem_cons_of_mem _ present)
                · exact marked isMarked others rfl
              · rintro isMarked rest rfl
                exact notMem_of_placeholder (eq_of_read_eq_marked isMarked) found
          | some result =>
              obtain ⟨replaced, mark, name, -, -, whole⟩ := exists_of_placeholder found
              have split : character :: others = mark :: '\x7b' :: name ++ '\x7d' :: result.2 := by
                rw [whole, List.append_assoc, List.singleton_append]
              have notOpened : state ≠ .opened := fun isOpened =>
                opened isOpened (split ▸ List.mem_append_right _ List.mem_cons_self)
              have isShut : state.read '1' = .shut := by
                rw [read_of_isCalm rfl, if_neg notOpened]
              rw [piecesFrom_of_found split found, Piece.splice_found, replaced, closes_append,
                closes_of_isCalm (List.all_eq_true.mp rfl), List.foldl_cons, List.foldl_nil, isShut,
                Bool.false_or]
              apply inductionHypothesis result.2.length _ _ _ rfl
              · simp only [split, List.length_append, List.length_cons]
                omega
              · rintro ⟨⟩
              · rintro ⟨⟩

/-- No placeholder is left where every placeholder is replaced. -/
theorem not_holdsPlaceholder_replaceAll
    (text : List Char) : ¬ HoldsPlaceholder (replaceAll placeholder text) := by
  rw [← Opening.closes_shut_iff, Bool.not_eq_true]
  apply Opening.closes_splice_placeholder
  · rintro ⟨⟩
  · rintro ⟨⟩

/-- A search finds no placeholder in a text without one. -/
theorem misses_placeholder
    {text : List Char}
    (absent : ¬ HoldsPlaceholder text) : Misses placeholder text := by
  intro before rest suffix
  cases found : placeholder before rest with
  | none => rfl
  | some result =>
      obtain ⟨-, mark, name, isMark, noEnd, whole⟩ := exists_of_placeholder found
      have inside : mark :: '\x7b' :: name ++ ['\x7d'] <:+: rest := ⟨[], result.2, whole.symm⟩
      exact absurd ⟨mark, name, isMark, noEnd, inside.trans suffix.isInfix⟩ absent

end Template
end TableReach
