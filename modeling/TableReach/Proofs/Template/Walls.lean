import TableReach.Proofs.Template.Prepared
import TableReach.Proofs.Template.Settling
import Mathlib.Algebra.GroupWithZero.Nat

/-!
# Walls

Brackets that open and operators are walls: no rule reads past one.  What a rule finds in
front of a wall it finds whatever stands behind, so passes repair the two sides of a wall
side by side.  The effort of a text is the sum of the efforts of its parts between walls,
but the passes it takes are no more than those of the part that takes most.
-/

namespace TableReach
namespace Template

open Text

/-- A sign past which no rule reads. -/
def isWall (character : Char) : Bool :=
  !isBlank character && !RepairRule.isNameCharacter character && character != ',' &&
    character != ')'

section Signs

variable
  {wall : Char}
  (solid : isWall wall = true)

include solid

theorem isBlank_of_isWall : isBlank wall = false := by
  simp only [isWall, Bool.and_eq_true, Bool.not_eq_true'] at solid
  exact solid.1.1.1

theorem isNameCharacter_of_isWall : RepairRule.isNameCharacter wall = false := by
  simp only [isWall, Bool.and_eq_true, Bool.not_eq_true'] at solid
  exact solid.1.1.2

theorem isWord_of_isWall : isWord wall = false := by
  have noName := isNameCharacter_of_isWall solid
  simp only [RepairRule.isNameCharacter, Bool.or_eq_false_iff] at noName
  exact noName.1.1.1.1

theorem endsWord_of_isWall
    (rest : List Char) : endsWord (wall :: rest) = true := by
  simp [endsWord, isWord_of_isWall solid]

theorem ne_of_isWall
    {sign : Char}
    (noWall : isWall sign = false) : wall ≠ sign := by
  rintro rfl
  exact Bool.eq_false_iff.mp noWall solid

/-- No letter of a keyword is a wall. -/
theorem fold_ne_of_isWall
    {letter : Char}
    (capital : letter.isUpper = true) : fold wall ≠ letter := by
  rintro rfl
  exact Bool.eq_false_iff.mp (isWord_of_isWall solid) (isWord_of_fold capital)

end Signs

section Options

variable
  {first : α → β → Prop}
  {second : γ → δ → Prop}

/-- What is done with related results gives related results. -/
theorem rel_bind
    {result : Option α}
    {other : Option β}
    {use : α → Option γ}
    {useOther : β → Option δ}
    (here : Option.Rel first result other)
    (later : ∀ {value valueOther}, first value valueOther →
      Option.Rel second (use value) (useOther valueOther)) :
    Option.Rel second (result.bind use) (other.bind useOther) := by
  cases here with
  | none => exact .none
  | some related => exact later related

theorem rel_orElse
    {result resultLater : Option α}
    {other otherLater : Option β}
    (here : Option.Rel first result other)
    (later : Option.Rel first resultLater otherLater) :
    Option.Rel first (result <|> resultLater) (other <|> otherLater) := by
  cases here with
  | none => exact later
  | some related => exact .some related

/-- A check that comes out the same. -/
theorem rel_check?
    {condition conditionOther : Bool}
    {result : Option γ}
    {other : Option δ}
    (same : condition = conditionOther)
    (later : Option.Rel second result other) :
    Option.Rel second ((check? condition).bind fun _ => result)
      ((check? conditionOther).bind fun _ => other) := by
  subst same
  cases condition with
  | false => exact .none
  | true => exact later

end Options

/-- A text that goes on with `rest` behind a wall, and the same text cut off behind the wall. -/
def IsCut (wall : Char) (rest cut whole : List Char) : Prop :=
  ∃ start, cut = start ++ [wall] ∧ whole = start ++ wall :: rest

namespace IsCut

variable
  {wall : Char}
  {rest cut whole : List Char}
  (solid : isWall wall = true)

theorem length_eq
    (isCut : IsCut wall rest cut whole) : whole.length = cut.length + rest.length := by
  obtain ⟨start, rfl, rfl⟩ := isCut
  simp only [List.length_append, List.length_cons, List.length_nil]
  omega

theorem consumed_eq
    {cutLeft wholeLeft : List Char}
    (isCut : IsCut wall rest cut whole)
    (left : IsCut wall rest cutLeft wholeLeft) :
    consumed cut cutLeft = consumed whole wholeLeft := by
  obtain ⟨start, rfl, rfl⟩ := isCut
  obtain ⟨startLeft, rfl, rfl⟩ := left
  have size (behind : List Char) : (start ++ wall :: behind).length -
      (startLeft ++ wall :: behind).length = start.length - startLeft.length := by
    simp only [List.length_append, List.length_cons]
    omega
  rw [consumed, consumed, size, size, List.take_append_of_le_length (Nat.sub_le _ _),
    List.take_append_of_le_length (Nat.sub_le _ _)]

theorem endsWord_eq
    (isCut : IsCut wall rest cut whole) : endsWord cut = endsWord whole := by
  obtain ⟨start, rfl, rfl⟩ := isCut
  cases start <;> rfl

/-- A wall is not the end of a text. -/
theorem atEnd?
    {relation : List Char × List Char → List Char × List Char → Prop}
    {use useOther : Unit → Option (List Char × List Char)}
    (isCut : IsCut wall rest cut whole) :
    Option.Rel relation ((Template.atEnd? cut).bind use)
      ((Template.atEnd? whole).bind useOther) := by
  obtain ⟨start, rfl, rfl⟩ := isCut
  cases start <;> exact .none

theorem dropWhile
    (isCut : IsCut wall rest cut whole)
    {property : Char → Bool}
    (stops : property wall = false) :
    IsCut wall rest (cut.dropWhile property) (whole.dropWhile property) := by
  obtain ⟨start, rfl, rfl⟩ := isCut
  exact ⟨_, dropWhile_append_cons stops start [], dropWhile_append_cons stops start rest⟩

/-- The first character, and the text behind it. -/
theorem head?_filter
    (isCut : IsCut wall rest cut whole)
    {property : Char → Bool}
    (stops : property wall = false) :
    Option.Rel (fun _ _ => IsCut wall rest (cut.drop 1) (whole.drop 1))
      (cut.head?.filter property) (whole.head?.filter property) := by
  obtain ⟨start, rfl, rfl⟩ := isCut
  cases start with
  | nil =>
      simp only [List.nil_append, List.head?_cons, Option.filter_some, stops]
      exact .none
  | cons character start =>
      simp only [List.cons_append, List.head?_cons, Option.filter_some]
      split
      · exact .some ⟨start, rfl, rfl⟩
      · exact .none

theorem getD
    {find : List Char → Option (List Char)}
    (isCut : IsCut wall rest cut whole)
    (found : Option.Rel (IsCut wall rest) (find cut) (find whole)) :
    IsCut wall rest ((find cut).getD cut) ((find whole).getD whole) := by
  generalize find cut = result at found ⊢
  generalize find whole = resultWhole at found ⊢
  cases found with
  | none => exact isCut
  | some left => exact left

include solid

theorem trimLeft
    (isCut : IsCut wall rest cut whole) : IsCut wall rest (trimLeft cut) (trimLeft whole) :=
  isCut.dropWhile (isBlank_of_isWall solid)

theorem afterBlanks?
    (isCut : IsCut wall rest cut whole) :
    Option.Rel (IsCut wall rest) (afterBlanks? cut) (afterBlanks? whole) := by
  obtain ⟨start, rfl, rfl⟩ := isCut
  cases start with
  | nil =>
      simp only [List.nil_append, Text.afterBlanks?, isBlank_of_isWall solid]
      exact .none
  | cons character start =>
      have left : IsCut wall rest (start ++ [wall]) (start ++ wall :: rest) := ⟨start, rfl, rfl⟩
      simp only [List.cons_append, Text.afterBlanks?]
      split
      · exact .some (left.trimLeft solid)
      · exact .none

/-- A keyword ends in front of a wall, or is none. -/
theorem afterKeyword?
    {word : List Char}
    (capitals : word.all Char.isUpper = true)
    (isCut : IsCut wall rest cut whole) :
    Option.Rel (IsCut wall rest) (afterKeyword? word cut) (afterKeyword? word whole) := by
  induction word generalizing cut whole with
  | nil => exact .some isCut
  | cons letter word inductionHypothesis =>
      rw [List.all_cons, Bool.and_eq_true] at capitals
      obtain ⟨start, rfl, rfl⟩ := isCut
      cases start with
      | nil =>
          have noLetter : (fold wall == letter) = false :=
            beq_false_of_ne (fold_ne_of_isWall solid capitals.1)
          simp only [List.nil_append, Text.afterKeyword?, noLetter]
          exact .none
      | cons character start =>
          simp only [List.cons_append, Text.afterKeyword?]
          split
          · exact inductionHypothesis capitals.2 ⟨start, rfl, rfl⟩
          · exact .none

theorem afterExact?
    {sign : Char}
    (noWall : isWall sign = false)
    (isCut : IsCut wall rest cut whole) :
    Option.Rel (IsCut wall rest) (afterExact? [sign] cut) (afterExact? [sign] whole) := by
  obtain ⟨start, rfl, rfl⟩ := isCut
  cases start with
  | nil =>
      simp only [List.nil_append, Text.afterExact?, beq_false_of_ne (ne_of_isWall solid noWall)]
      exact .none
  | cons character start =>
      simp only [List.cons_append, Text.afterExact?]
      split
      · exact .some ⟨start, rfl, rfl⟩
      · exact .none

theorem afterConnective?
    (isCut : IsCut wall rest cut whole) :
    Option.Rel (IsCut wall rest) (afterConnective? cut) (afterConnective? whole) := by
  unfold Template.afterConnective?
  have first : Option.Rel (IsCut wall rest) (Text.afterKeyword? "AND".toList cut)
      (Text.afterKeyword? "AND".toList whole) := isCut.afterKeyword? solid (by decide)
  generalize Text.afterKeyword? "AND".toList cut = found at first ⊢
  generalize Text.afterKeyword? "AND".toList whole = foundWhole at first ⊢
  cases first with
  | none => exact isCut.afterKeyword? solid (by decide)
  | some left => exact .some left

theorem afterKeywordAndBlanks?
    {word : List Char}
    (capitals : word.all Char.isUpper = true)
    (isCut : IsCut wall rest cut whole) :
    Option.Rel (IsCut wall rest) (afterKeywordAndBlanks? word cut)
      (afterKeywordAndBlanks? word whole) :=
  rel_bind (isCut.afterKeyword? solid capitals) fun left => left.afterBlanks? solid

theorem afterClause?
    (isCut : IsCut wall rest cut whole) :
    Option.Rel (IsCut wall rest) (RepairRule.afterClause? cut) (RepairRule.afterClause? whole) := by
  have two {first second : List Char} (capitals : first.all Char.isUpper = true)
      (capitalsSecond : second.all Char.isUpper = true) :
      Option.Rel (IsCut wall rest)
        ((Template.afterKeywordAndBlanks? first cut).bind (Text.afterKeyword? second))
        ((Template.afterKeywordAndBlanks? first whole).bind (Text.afterKeyword? second)) :=
    rel_bind (isCut.afterKeywordAndBlanks? solid capitals) fun left =>
      left.afterKeyword? solid capitalsSecond
  exact rel_orElse (two (by decide) (by decide)) <| rel_orElse (two (by decide) (by decide)) <|
    rel_orElse (isCut.afterKeyword? solid (by decide)) (isCut.afterKeyword? solid (by decide))

theorem afterListEnd?
    (isCut : IsCut wall rest cut whole) :
    Option.Rel (IsCut wall rest) (RepairRule.afterListEnd? cut)
      (RepairRule.afterListEnd? whole) := by
  have clause {word : List Char} (capitals : word.all Char.isUpper = true) :
      Option.Rel (IsCut wall rest)
        ((Text.afterKeyword? word cut).bind fun rest =>
          (check? (endsWord rest)).bind fun _ => some rest)
        ((Text.afterKeyword? word whole).bind fun rest =>
          (check? (endsWord rest)).bind fun _ => some rest) :=
    rel_bind (isCut.afterKeyword? solid capitals) fun left =>
      rel_check? left.endsWord_eq (.some left)
  have ending : Option.Rel (IsCut wall rest) ((Template.atEnd? cut).map fun _ => [])
      ((Template.atEnd? whole).map fun _ => []) := by
    obtain ⟨start, rfl, rfl⟩ := isCut
    cases start <;> exact .none
  exact rel_orElse (clause (by decide)) <| rel_orElse (clause (by decide)) <|
    rel_orElse (isCut.afterExact? solid (by decide)) ending

end IsCut

namespace RepairRule

/-- A rule finds the same in front of a wall, whatever stands behind it. -/
theorem recognize_isCut
    {wall : Char}
    {rest cut whole : List Char}
    (solid : isWall wall = true)
    (rule : RepairRule)
    (before : Option Char)
    (isCut : IsCut wall rest cut whole) :
    Option.Rel (fun found foundWhole =>
        found.1 = foundWhole.1 ∧ IsCut wall rest found.2 foundWhole.2)
      (rule.recognize before cut) (rule.recognize before whole) := by
  have noName := isNameCharacter_of_isWall solid
  cases rule with
  | leadingConnective =>
      refine rel_check? rfl ?_
      refine rel_bind ((isCut.trimLeft solid).afterConnective? solid) fun left => ?_
      exact rel_bind (left.afterBlanks? solid) fun left => .some ⟨rfl, left⟩
  | duplicateConnective =>
      refine rel_check? rfl ?_
      refine rel_bind (isCut.afterConnective? solid) fun left => ?_
      refine rel_bind (left.afterBlanks? solid) fun left => ?_
      refine rel_bind (left.afterConnective? solid) fun left => ?_
      exact rel_check? left.endsWord_eq (.some ⟨rfl, left⟩)
  | duplicateWhere =>
      refine rel_check? rfl ?_
      refine rel_bind (isCut.afterKeywordAndBlanks? solid (by decide)) fun left => ?_
      refine rel_bind (left.afterKeyword? solid (by decide)) fun left => ?_
      exact rel_check? left.endsWord_eq (.some ⟨rfl, left⟩)
  | whereConnective =>
      refine rel_check? rfl ?_
      refine rel_bind (isCut.afterKeywordAndBlanks? solid (by decide)) fun left => ?_
      refine rel_bind (left.afterConnective? solid) fun left => ?_
      exact rel_bind (left.afterBlanks? solid) fun left => .some ⟨rfl, left⟩
  | trailingConnective =>
      refine rel_bind (isCut.afterBlanks? solid) fun left => ?_
      refine rel_bind (left.afterConnective? solid) fun left => ?_
      exact (left.trimLeft solid).atEnd?
  | emptyWhere =>
      refine rel_check? rfl ?_
      refine rel_bind (isCut.afterKeywordAndBlanks? solid (by decide)) fun clause => ?_
      refine rel_bind (clause.afterClause? solid) fun left => ?_
      exact rel_check? left.endsWord_eq (.some ⟨clause.consumed_eq left, left⟩)
  | trailingWhere =>
      refine rel_check? ?_ ?_
      · simp only [isCut.length_eq, (isCut.trimLeft solid).length_eq, Nat.add_lt_add_iff_right]
      · refine rel_bind ((isCut.trimLeft solid).afterKeyword? solid (by decide)) fun left => ?_
        exact (left.trimLeft solid).atEnd?
  | danglingComma =>
      refine rel_bind (isCut.afterExact? solid (by decide)) fun left => ?_
      have next := left.trimLeft solid
      refine rel_bind (next.afterListEnd? solid) fun left => .some ⟨?_, left⟩
      exact congrArg (' ' :: ·) (next.consumed_eq left)
  | fromConnective =>
      refine rel_check? rfl ?_
      refine rel_bind (isCut.afterKeywordAndBlanks? solid (by decide)) fun table => ?_
      refine rel_bind (table.head?_filter noName) fun _ => ?_
      have behind := table.dropWhile noName
      refine rel_bind (behind.afterBlanks? solid) fun left => ?_
      have capitals : "WHERE".toList.all Char.isUpper = true := by decide
      have connective := left.getD (left.afterKeywordAndBlanks? solid capitals)
      refine rel_bind (connective.afterConnective? solid) fun left => ?_
      refine rel_check? left.endsWord_eq (.some ⟨?_, left⟩)
      dsimp only
      rw [table.consumed_eq behind, connective.consumed_eq left]
  | bareFrom =>
      refine rel_check? rfl ?_
      have clause := isCut.trimLeft solid
      refine rel_bind (clause.afterKeywordAndBlanks? solid (by decide)) fun table => ?_
      refine rel_bind (table.head?_filter (isWord_of_isWall solid)) fun left => .some ⟨?_, left⟩
      exact congrArg ("SELECT * ".toList ++ ·) (clause.consumed_eq left)
  | bareSelect =>
      refine rel_check? rfl ?_
      refine rel_bind ((isCut.trimLeft solid).afterKeyword? solid (by decide)) fun left => ?_
      exact (left.trimLeft solid).atEnd?

variable
  {wall : Char}
  (solid : isWall wall = true)

include solid

/-- In front of a wall a rule finds nothing or a match that ends there, whatever stands behind. -/
theorem recognize_append_wall
    (rule : RepairRule)
    (before : Option Char)
    (start : List Char) :
    (∀ rest, rule.recognize before (start ++ wall :: rest) = none) ∨
      ∃ replacement taken last left, start = taken ++ last :: left ∧
        ∀ rest, rule.recognize before (start ++ wall :: rest) =
          some (replacement, left ++ wall :: rest) := by
  have same (rest : List Char) :=
    rule.recognize_isCut solid before ⟨start, rfl, Eq.refl (start ++ wall :: rest)⟩
  cases found : rule.recognize before (start ++ [wall]) with
  | none =>
      refine Or.inl fun rest => ?_
      have related := same rest
      rw [found] at related
      generalize rule.recognize before (start ++ wall :: rest) = result at related ⊢
      cases related
      rfl
  | some result =>
      obtain ⟨taken, last, split, _⟩ := (isMended_recognize found).exists_last
      obtain ⟨replacement, behind⟩ := result
      have cut := same []
      rw [found] at cut
      obtain ⟨_, left, rfl, _⟩ := Option.rel_some_some.mp cut
      refine Or.inr ⟨replacement, taken, last, left, ?_, fun rest => ?_⟩
      · rw [← List.cons_append, ← List.append_assoc] at split
        exact List.append_cancel_right split
      · have related := same rest
        rw [found] at related
        generalize rule.recognize before (start ++ wall :: rest) = result at related ⊢
        cases related with
        | @some _ whole related =>
            obtain ⟨rfl, leftWhole, equal, behindWhole⟩ := related
            obtain rfl := List.append_cancel_right equal
            exact congrArg (fun behind => some (whole.1, behind)) behindWhole

theorem recognize_wall
    (rule : RepairRule)
    (before : Option Char)
    (rest : List Char) : rule.recognize before (wall :: rest) = none := by
  rcases rule.recognize_append_wall solid before [] with nothing | ⟨_, _, _, _, split, _⟩
  · exact nothing rest
  · simp at split

/-- The search keeps a wall, and goes on behind it as if nothing but the wall stood before. -/
theorem splice_piecesFrom_wall
    (rule : RepairRule)
    (before : Option Char)
    (start : List Char) :
    ∃ front, ∀ rest,
      Piece.splice (piecesFrom rule.recognize before 0 (start ++ wall :: rest)) =
        front ++ wall :: Piece.splice (piecesFrom rule.recognize (some wall) 0 rest) := by
  -- The induction is on the length of the text in front of the wall, which a match shortens.
  induction size : start.length using Nat.strong_induction_on generalizing before start with
  | _ size inductionHypothesis =>
      subst size
      rcases rule.recognize_append_wall solid before start with nothing |
        ⟨replacement, taken, last, left, rfl, found⟩
      · cases start with
        | nil =>
            refine ⟨[], fun rest => ?_⟩
            have missed := nothing rest
            rw [List.nil_append] at missed
            rw [List.nil_append, piecesFrom, missed, Piece.splice_kept, List.nil_append]
        | cons character start =>
            obtain ⟨front, later⟩ :=
              inductionHypothesis start.length (Nat.lt_succ_self _) (some character) start rfl
            refine ⟨character :: front, fun rest => ?_⟩
            have missed := nothing rest
            rw [List.cons_append] at missed
            rw [List.cons_append, piecesFrom, missed, Piece.splice_kept, later, List.cons_append]
      · have shorter : left.length < (taken ++ last :: left).length := by
          rw [List.length_append, List.length_cons]
          omega
        obtain ⟨front, later⟩ := inductionHypothesis left.length shorter (some last) left rfl
        refine ⟨replacement ++ front, fun rest => ?_⟩
        have split : taken ++ last :: left ++ wall :: rest = taken ++ last :: (left ++ wall :: rest) :=
          List.append_assoc _ _ _
        rw [piecesFrom_of_found split (found rest), Piece.splice_found, later, List.append_assoc]

end RepairRule

/-- A text in two parts that have a wall in common. -/
def Joins (wall : Char) (front back whole : List Char) : Prop :=
  ∃ start rest, front = start ++ [wall] ∧ back = wall :: rest ∧ whole = start ++ wall :: rest

namespace Joins

theorem append_cons
    (wall : Char)
    (start rest : List Char) :
    Joins wall (start ++ [wall]) (wall :: rest) (start ++ wall :: rest) :=
  ⟨start, rest, rfl, rfl, rfl⟩

variable
  {wall : Char}
  {front back whole : List Char}
  (solid : isWall wall = true)
  (joins : Joins wall front back whole)

include solid joins

/-- A rule is applied to the two parts side by side. -/
theorem replaceAll
    (rule : RepairRule) :
    Joins wall (replaceAll rule.recognize front) (replaceAll rule.recognize back)
      (replaceAll rule.recognize whole) := by
  obtain ⟨start, rest, rfl, rfl, rfl⟩ := joins
  obtain ⟨changed, replaced⟩ := rule.splice_piecesFrom_wall solid none start
  refine ⟨changed, _, replaced [], ?_, replaced rest⟩
  rw [Text.replaceAll, pieces, piecesFrom, rule.recognize_wall solid]
  rfl

/-- The two parts are put on one line side by side. -/
theorem collapse : Joins wall (collapse front) (collapse back) (collapse whole) := by
  have letter := isBlank_of_isWall solid
  obtain ⟨start, rest, rfl, rfl, rfl⟩ := joins
  exact ⟨_, _, collapse_append_cons letter start [], collapse_append_cons letter [] rest,
    collapse_append_cons letter start rest⟩

/-- The parts of a line are lines. -/
theorem collapse_eq
    (onLine : Text.collapse whole = whole) :
    Text.collapse front = front ∧ Text.collapse back = back := by
  have letter := isBlank_of_isWall solid
  obtain ⟨start, rest, rfl, rfl, rfl⟩ := joins
  have lineRest : line rest = rest := (line_tail (line_of_append (line_of_collapse onLine))).1
  rw [collapse_append_cons letter, lineRest] at onLine
  have lineStart : trimLeft (squeeze start) = start := List.append_cancel_right onLine
  constructor
  · rw [collapse_append_cons letter, lineStart]
    rfl
  · have starts : startsBlank (wall :: rest) = false := letter
    rw [collapse_of_startsBlank starts, line_cons_of_not_isBlank _ letter, lineRest]

/-- A text is stable if its two parts are. -/
theorem isStable
    (stableFront : IsStable front)
    (stableBack : IsStable back) : IsStable whole := by
  intro rule present
  obtain ⟨start, rest, frontEq, backEq, wholeEq⟩ := joins.replaceAll solid rule
  rw [RepairRule.mend?_eq_none_iff.mp (stableFront rule present)] at frontEq
  rw [RepairRule.mend?_eq_none_iff.mp (stableBack rule present)] at backEq
  obtain ⟨_, _, rfl, rfl, rfl⟩ := joins
  obtain rfl := List.append_cancel_right frontEq
  obtain rfl := (List.cons.inj backEq).2
  exact RepairRule.mend?_eq_none_iff.mpr wholeEq

end Joins

namespace Repaired

/-- On a line, trying a rule is replacing its matches and putting the text on one line again. -/
theorem text_step_of_collapse
    {state : Repaired}
    (onLine : collapse state.text = state.text)
    (rule : RepairRule) :
    (state.step rule).text = collapse (replaceAll rule.recognize state.text) := by
  cases mended : rule.mend? state.text with
  | none => rw [step_of_none mended, RepairRule.mend?_eq_none_iff.mp mended, onLine]
  | some changed => rw [text_step mended, (RepairRule.mend?_eq_some_iff.mp mended).1]

/-- A line and its two parts, each under repair. -/
structure Joined (wall : Char) (front back whole : Repaired) : Prop where
  /-- The two parts have the wall in common. -/
  joins : Joins wall front.text back.text whole.text
  /-- The text stands on one line. -/
  onLine : collapse whole.text = whole.text

namespace Joined

variable
  {wall : Char}
  {front back whole : Repaired}
  (solid : isWall wall = true)
  (joined : Joined wall front back whole)

include solid joined

/-- A rule that is tried on a line is tried on its parts. -/
theorem step
    (rule : RepairRule) : Joined wall (front.step rule) (back.step rule) (whole.step rule) := by
  obtain ⟨onLineFront, onLineBack⟩ := joined.joins.collapse_eq solid joined.onLine
  constructor
  · rw [text_step_of_collapse onLineFront, text_step_of_collapse onLineBack,
      text_step_of_collapse joined.onLine]
    exact (joined.joins.replaceAll solid rule).collapse solid
  · rw [text_step_of_collapse joined.onLine, collapse_collapse]

theorem foldl_step
    (rules : List RepairRule) :
    Joined wall (rules.foldl Repaired.step front) (rules.foldl Repaired.step back)
      (rules.foldl Repaired.step whole) := by
  induction rules generalizing front back whole with
  | nil => exact joined
  | cons rule rules inductionHypothesis => exact inductionHypothesis (joined.step solid rule)

theorem passes
    (count : Nat) : Joined wall (passes count front) (passes count back) (passes count whole) := by
  induction count generalizing front back whole with
  | zero => exact joined
  | succ count inductionHypothesis =>
      exact inductionHypothesis (joined.foldl_step solid RepairRule.all)

end Joined

end Repaired

/-- The parts of a text between its walls, each with the walls at its ends; `front` is what the first
part has before the text. -/
def partsFrom (front : List Char) : List Char → List (List Char)
  | [] => [front]
  | character :: rest =>
      if isWall character then (front ++ [character]) :: partsFrom [character] rest
      else partsFrom (front ++ [character]) rest

/-- The parts of a text between its walls. -/
def parts (text : List Char) : List (List Char) :=
  partsFrom [] text

theorem isStable_afterPasses_of_partsFrom
    {count : Nat}
    {front text : List Char}
    (onLine : collapse (front ++ text) = front ++ text)
    (settled : ∀ part ∈ partsFrom front text, IsStable (afterPasses count part)) :
    IsStable (afterPasses count (front ++ text)) := by
  induction text generalizing front with
  | nil =>
      rw [List.append_nil]
      exact settled front List.mem_cons_self
  | cons character rest inductionHypothesis =>
      rw [partsFrom] at settled
      split at settled
      · next solid =>
          rw [List.forall_mem_cons] at settled
          have joins := Joins.append_cons character front rest
          have back := inductionHypothesis (joins.collapse_eq solid onLine).2 settled.2
          have joined : Repaired.Joined character { text := front ++ [character], repairs := [] }
              { text := character :: rest, repairs := [] }
              { text := front ++ character :: rest, repairs := [] } := ⟨joins, onLine⟩
          exact (joined.passes solid count).joins.isStable solid settled.1 back
      · rw [List.append_cons] at onLine ⊢
        exact inductionHypothesis onLine settled

/-- Passes settle the parts of a line side by side: as many as the part takes that takes most. -/
theorem isStable_afterPasses_of_parts
    {count : Nat}
    {text : List Char}
    (onLine : collapse text = text)
    (enough : ∀ part ∈ parts text, effort part ≤ count) : IsStable (afterPasses count text) := by
  have onLineFrom : collapse ([] ++ text) = [] ++ text := onLine
  exact isStable_afterPasses_of_partsFrom onLineFrom fun part present =>
    Repaired.isStable_passes (enough part present)

section Effort

variable
  {wall : Char}
  (solid : isWall wall = true)

include solid

/-- A wall is an atom of its own. -/
theorem atoms_cons_wall
    (rest : List Char) : atoms (wall :: rest) = [wall] :: atoms rest := by
  have alone : atoms [wall] = [[wall]] := by
    simp [atoms, List.splitBy, List.splitBy.loop, allBlank, isBlank_of_isWall solid]
  have seam : IsSeam [wall] rest := by
    left
    simp [startsWord, isWord_of_isWall solid]
  rw [← List.singleton_append, atoms_append seam, alone, List.singleton_append]

theorem atoms_append_wall
    (start rest : List Char) :
    atoms (start ++ wall :: rest) = atoms start ++ [wall] :: atoms rest := by
  have seam : IsSeam start (wall :: rest) := Or.inr (endsWord_of_isWall solid rest)
  rw [atoms_append seam, atoms_cons_wall solid]

theorem joint?_wall : joint? [wall] = none := by
  have noComma : wall ≠ ',' := ne_of_isWall solid (by decide)
  simp [joint?, noComma]

/-- A connective can join a wall. -/
theorem Footing.next_wall
    (footing : Footing) : footing.next [wall] = firm := by
  have noMark : [wall] ∉ nameMarks := by
    have noName := isNameCharacter_of_isWall solid
    simp only [RepairRule.isNameCharacter, Bool.or_eq_false_iff, beq_eq_false_iff_ne] at noName
    simp [nameMarks, noName]
  simp [next, joint?_wall solid, noMark, endsWord_of_isWall solid, clauseWords]

theorem Joint.isLoose_append_wall
    (joint : Joint)
    (list rest : List (List Char)) :
    joint.isLoose (list ++ [wall] :: rest) = joint.isLoose (list ++ [[wall]]) := by
  have noJoint := joint?_wall solid
  induction list generalizing joint with
  | nil =>
      rw [List.nil_append, List.nil_append, isLoose_cons_of_none _ noJoint,
        isLoose_cons_of_none _ noJoint]
  | cons atom list inductionHypothesis =>
      simp only [List.cons_append, isLoose, inductionHypothesis]

/-- The slack of a text is that of its two parts. -/
theorem slackFrom_append_wall
    (footing : Footing)
    (list rest : List (List Char)) :
    slackFrom footing (list ++ [wall] :: rest) =
      slackFrom footing (list ++ [[wall]]) + slackFrom .firm rest := by
  have noJoint := joint?_wall solid
  induction list generalizing footing with
  | nil =>
      rw [List.nil_append, List.nil_append, slackFrom_of_none _ _ noJoint,
        slackFrom_of_none _ _ noJoint, Footing.next_wall solid]
      exact (Nat.zero_add _).symm
  | cons atom list inductionHypothesis =>
      have exposes : footing.exposes (list ++ [wall] :: rest) =
          footing.exposes (list ++ [[wall]]) := by
        cases footing with
        | conditional => exact Joint.isLoose_append_wall solid .condition list rest
        | _ => rfl
      have same : excess footing atom (list ++ [wall] :: rest) =
          excess footing atom (list ++ [[wall]]) := by
        simp only [excess, Joint.isLoose_append_wall solid, exposes]
      rw [List.cons_append, List.cons_append, slackFrom, slackFrom, same, inductionHypothesis,
        Nat.add_assoc]

namespace Joins

variable
  {front back whole : List Char}
  (joins : Joins wall front back whole)

include joins

theorem slack_eq : slack whole = slack front + slack back := by
  obtain ⟨start, rest, rfl, rfl, rfl⟩ := joins
  have back : slackFrom .bare ([wall] :: atoms rest) = slackFrom .firm (atoms rest) := by
    rw [slackFrom_of_none _ _ (joint?_wall solid), Footing.next_wall solid]
  rw [slack, slack, slack, atoms_append_wall solid start rest, atoms_append_wall solid start [],
    atoms_cons_wall solid, slackFrom_append_wall solid]
  exact congrArg _ back.symm

/-- A text that starts with a wall needs no head. -/
theorem lacksHead_back : lacksHead back = false := by
  obtain ⟨_, rest, _, rfl, _⟩ := joins
  apply lacksHead_eq_false
  rw [atoms_cons_wall solid]
  rintro (⟨_, _, same, word⟩ | ⟨_, same, word⟩)
  · obtain ⟨rfl, _⟩ := List.cons.inj same
    simp at word
  · obtain ⟨rfl, _⟩ := List.cons.inj same
    simp at word

/-- A text lacks a head if its front does. -/
theorem lacksHead_eq : lacksHead whole = lacksHead front := by
  have headed := lacksHead_eq_false_iff.mp (joins.lacksHead_back solid)
  rw [Bool.eq_iff_iff, ← not_iff_not, Bool.not_eq_true, Bool.not_eq_true, lacksHead_eq_false_iff,
    lacksHead_eq_false_iff]
  refine forall₂_congr fun rule heads => ?_
  have back := RepairRule.mend?_eq_none_iff.mp (headed rule heads)
  obtain ⟨start, rest, frontEq, backEq, wholeEq⟩ := joins.replaceAll solid rule
  rw [RepairRule.mend?_eq_none_iff, RepairRule.mend?_eq_none_iff, frontEq, wholeEq]
  rw [back] at backEq
  obtain ⟨_, _, rfl, rfl, rfl⟩ := joins
  obtain rfl := (List.cons.inj backEq).2
  rw [List.append_left_inj, List.append_left_inj]

/-- The effort that a text takes is that of its two parts. -/
theorem effort_eq : effort whole = effort front + effort back := by
  rw [effort, effort, effort, joins.slack_eq solid, joins.lacksHead_eq solid,
    joins.lacksHead_back solid]
  simp only [Bool.false_eq_true, if_false]
  omega

end Joins

end Effort

theorem effort_eq_sum_partsFrom
    (front text : List Char) :
    effort (front ++ text) = ((partsFrom front text).map effort).sum := by
  induction text generalizing front with
  | nil => rw [List.append_nil, partsFrom, List.map_singleton, List.sum_singleton]
  | cons character rest inductionHypothesis =>
      rw [partsFrom]
      split
      · next solid =>
          have joins := Joins.append_cons character front rest
          rw [joins.effort_eq solid, List.map_cons, List.sum_cons, ← inductionHypothesis,
            List.singleton_append]
      · rw [List.append_cons, inductionHypothesis]

/-- The effort that a text takes is the sum of what its parts take. -/
theorem effort_eq_sum_parts
    (text : List Char) : effort text = ((parts text).map effort).sum :=
  effort_eq_sum_partsFrom [] text

example :
    (parts "f(a,) + f(b,) + f(c,) + f(d,) + f(e,)".toList).map effort =
      [0, 1, 0, 1, 0, 1, 0, 1, 0, 1] := by
  decide

/-- A prepared statement is stable if no part of the text between two walls takes more effort than
there are passes. -/
theorem isStable_prepare
    {text : List Char}
    (enough : ∀ part ∈ parts (normalize text).text, effort part ≤ passLimit) :
    IsStable (prepare text).sql := by
  obtain ⟨source, collapsed⟩ := isCollapsed_normalize text
  have onLine : collapse (normalize text).text = (normalize text).text := by
    rw [collapsed, collapse_collapse]
  have repaired : IsStable (repair (normalize text).text).text :=
    isStable_afterPasses_of_parts onLine enough
  unfold prepare
  dsimp only
  split
  · exact repaired
  · decide

end Template
end TableReach
