import TableReach.Proofs.Template.Placeholder
import TableReach.Proofs.Template.Passes
import TableReach.Proofs.Template.Conservation
import TableReach.Proofs.Template.Prepared
import Mathlib.Data.List.TakeWhile

/-!
# The canonical form of prepared texts

Behind the step that replaces the placeholders, nothing brings one back: neither taking out
markup, nor reading entities, nor putting the text on one line, nor repairing it.
So a prepared text holds none, stands on one line and has the shape of a statement.
-/

namespace TableReach
namespace Template

open Text

section Markup

variable
  {text rest : List Char}

theorem isBehind_of_afterExact?
    {mark : List Char}
    (something : mark ≠ [])
    (found : afterExact? mark text = some rest) : IsBehind rest text :=
  ⟨mark, something, afterExact?_eq_some_iff.mp found⟩

theorem suffix_of_splitAtMark?
    {mark inside : List Char}
    (something : mark ≠ [])
    (found : splitAtMark? mark text = some (inside, rest)) : rest <:+ text := by
  rw [(splitAtMark?_append something found).1]
  exact List.suffix_append _ _

theorem suffix_of_afterTagEnd?
    (found : afterTagEnd? text = some rest) : rest <:+ text := by
  obtain ⟨⟨inside, behind⟩, split, rfl⟩ := Option.map_eq_some_iff.mp found
  exact suffix_of_splitAtMark? (List.cons_ne_nil _ _) split

/-- The name of a tag stands in front of what is found behind it. -/
theorem isBehind_of_afterTagName?
    {name : List Char}
    (found : afterTagName? name text = some rest) : IsBehind rest text := by
  simp only [afterTagName?, Option.bind_eq_bind, Option.bind_eq_some_iff] at found
  obtain ⟨next, behindMark, behind, behindName, ends⟩ := found
  split at ends
  · rw [← Option.some_inj.mp ends]
    exact (isBehind_of_afterExact? (List.cons_ne_nil _ _) behindMark).of_suffix
      (afterKeyword?_suffix behindName)
  · cases ends

/-- What stands behind a closing tag is an end of the text. -/
theorem suffix_of_afterClosingTag?
    {name : List Char}
    (found : afterClosingTag? name text = some rest) : rest <:+ text := by
  simp only [afterClosingTag?, Option.bind_eq_bind, Option.bind_eq_some_iff,
    afterExact?_eq_some_iff] at found
  obtain ⟨next, rfl, behind, behindName, ends⟩ := found
  have suffix : rest <:+ trimLeft behind := ends ▸ List.suffix_append _ _
  exact suffix.trans ((List.dropWhile_suffix _).trans
    ((afterKeyword?_suffix behindName).trans (List.suffix_append _ _)))

/-- What stands behind the first of some places is an end of the text. -/
theorem suffix_of_afterFirst?
    {ending : List Char → Option (List Char)}
    (each : ∀ {text rest : List Char}, ending text = some rest → rest <:+ text)
    (found : afterFirst? ending text = some rest) : rest <:+ text := by
  induction text with
  | nil => exact each found
  | cons character others inductionHypothesis =>
      rw [afterFirst?] at found
      split at found
      · next remaining here =>
          rw [← Option.some_inj.mp found]
          exact each here
      · exact (inductionHypothesis found).trans (List.suffix_cons _ _)

/-- An element stands in front of what is found behind it. -/
theorem isBehind_of_afterElement?
    {name : List Char}
    (found : afterElement? name text = some rest) : IsBehind rest text := by
  simp only [afterElement?, Option.bind_eq_bind, Option.bind_eq_some_iff] at found
  obtain ⟨next, behindName, body, behindTag, behindBody⟩ := found
  apply (isBehind_of_afterTagName? behindName).of_suffix
  exact (suffix_of_afterFirst? suffix_of_afterClosingTag? behindBody).trans
    (suffix_of_afterTagEnd? behindTag)

/-- What stands behind an attribute is an end of the text. -/
theorem suffix_of_afterAttribute?
    (found : afterAttribute? text = some rest) : rest <:+ text := by
  simp only [afterAttribute?, Option.bind_eq_bind, Option.bind_eq_some_iff,
    afterExact?_eq_some_iff] at found
  obtain ⟨name, behindBlanks, _, _, value, behindName, behindValue⟩ := found
  have suffix : value <:+ text := by
    have inValue : value <:+ trimLeft (name.dropWhile isTagNameCharacter) :=
      behindName ▸ List.suffix_append _ _
    exact inValue.trans ((List.dropWhile_suffix _).trans
      ((List.dropWhile_suffix _).trans (afterBlanks?_suffix behindBlanks)))
  have quoted {mark : Char} {inside : List Char}
      (starts : trimLeft value = mark :: inside)
      (found : (splitAtMark? [mark] inside).map Prod.snd = some rest) : rest <:+ text := by
    obtain ⟨⟨quote, behind⟩, split, rfl⟩ := Option.map_eq_some_iff.mp found
    have inQuote : inside <:+ trimLeft value := starts ▸ List.suffix_cons _ _
    exact (suffix_of_splitAtMark? (List.cons_ne_nil _ _) split).trans
      (inQuote.trans ((List.dropWhile_suffix _).trans suffix))
  split at behindValue
  · next starts => exact quoted starts behindValue
  · next starts => exact quoted starts behindValue
  · cases behindValue

/-- What stands behind attributes is an end of the text. -/
theorem suffix_of_afterAttributes
    (limit : Nat)
    (text : List Char) : afterAttributes limit text <:+ text := by
  induction limit generalizing text with
  | zero => exact List.suffix_refl text
  | succ limit inductionHypothesis =>
      rw [afterAttributes]
      split
      · next rest found => exact (inductionHypothesis rest).trans (suffix_of_afterAttribute? found)
      · exact List.suffix_refl text

/-- What stands behind a mark that may be missing is an end of the text. -/
theorem suffix_of_skipMark
    (mark : Char)
    (text : List Char) : skipMark mark text <:+ text := by
  cases text with
  | nil => exact List.suffix_refl _
  | cons character rest =>
      rw [skipMark]
      split
      · exact List.suffix_cons _ _
      · exact List.suffix_refl _

/-- The text in front of a tag stands inside of it. -/
theorem exists_of_leadingText?
    {before : Option Char}
    {value : List Char}
    (found : leadingText? before text = some (value, rest)) :
    ∃ start behind, text = start ++ value ++ behind ++ rest := by
  unfold leadingText? at found
  split at found
  rotate_left
  · cases found
  simp only [Option.bind_eq_bind, Option.bind_eq_some_iff, Option.some.injEq, Prod.mk.injEq,
    afterExact?_eq_some_iff] at found
  obtain ⟨name, behindName, sign, equal, quote, opens, ⟨value, behindValue⟩, split, tail,
    behindTag, rfl, rfl⟩ := found
  have inName : name <:+ text := afterKeyword?_suffix behindName
  have inSign : sign <:+ trimLeft name := equal ▸ List.suffix_append _ _
  have inQuote : quote <:+ trimLeft sign := opens ▸ List.suffix_append _ _
  obtain ⟨start, whole⟩ := inQuote.trans ((List.dropWhile_suffix _).trans
    (inSign.trans ((List.dropWhile_suffix _).trans inName)))
  obtain ⟨between, closed⟩ := suffix_of_afterTagEnd? behindTag
  have inside : quote = value ++ ['"'] ++ (between ++ tail) :=
    closed ▸ (splitAtMark?_append (List.cons_ne_nil _ _) split).1
  refine ⟨start, ['"'] ++ between, ?_⟩
  rw [← whole, inside]
  simp only [List.append_assoc]

/-- The first text in front of a tag stands inside of it. -/
theorem exists_of_findLeadingText?
    {before : Option Char}
    {value : List Char}
    (found : findLeadingText? before text = some (value, rest)) :
    ∃ start behind, text = start ++ value ++ behind ++ rest := by
  induction text generalizing before with
  | nil => cases found
  | cons character others inductionHypothesis =>
      rw [findLeadingText?] at found
      split at found
      · next here => exact exists_of_leadingText? (here.trans found)
      · split at found
        · cases found
        · obtain ⟨start, behind, rfl⟩ := inductionHypothesis found
          exact ⟨character :: start, behind, rfl⟩

end Markup

section Harmless

/-- Putting a space in the place of a comment is harmless. -/
theorem isHarmless_comment : IsHarmless comment := by
  apply IsHarmless.of_isCalm
  intro before text replacement rest found
  simp only [comment, Option.bind_eq_bind, Option.bind_eq_some_iff, Option.some.injEq,
    Prod.mk.injEq] at found
  obtain ⟨body, opens, ⟨inside, behind⟩, split, rfl, rfl⟩ := found
  refine ⟨?_, List.cons_ne_nil _ _, List.all_eq_true.mp rfl⟩
  exact (isBehind_of_afterExact? (by decide) opens).of_suffix
    (suffix_of_splitAtMark? (by decide) split)

/-- Putting something calm in the place of an element is harmless. -/
theorem isHarmless_element
    {name replacement : List Char}
    (something : replacement ≠ [])
    (calm : ∀ character ∈ replacement, isCalm character = true) :
    IsHarmless fun _ text => (afterElement? name text).map fun rest => (replacement, rest) := by
  apply IsHarmless.of_isCalm
  intro before text found rest result
  obtain ⟨behind, isElement, equal⟩ := Option.map_eq_some_iff.mp result
  obtain ⟨rfl, rfl⟩ := Prod.mk.inj equal
  exact ⟨isBehind_of_afterElement? isElement, something, calm⟩

/-- Putting a space in the place of a key selection is harmless. -/
theorem isHarmless_keySelection : IsHarmless keySelection :=
  isHarmless_element (List.cons_ne_nil _ _) (List.all_eq_true.mp rfl)

theorem isHarmless_repetition : IsHarmless repetition :=
  isHarmless_element (by decide) (List.all_eq_true.mp rfl)

/-- Putting a keyword in the place of its tag is harmless. -/
theorem isHarmless_keywordTag
    {name : List Char}
    (calm : ∀ character ∈ ' ' :: name ++ [' '], isCalm character = true) :
    IsHarmless (keywordTag name) := by
  apply IsHarmless.of_isCalm
  intro before text replacement rest found
  simp only [keywordTag, Option.bind_eq_bind, Option.bind_eq_some_iff, Option.some.injEq,
    Prod.mk.injEq] at found
  obtain ⟨next, opens, behind, behindName, tail, closes, rfl, rfl⟩ := found
  refine ⟨?_, List.cons_ne_nil _ _, calm⟩
  apply (isBehind_of_afterExact? (List.cons_ne_nil _ _) opens).of_suffix
  have inBehind : tail <:+ trimLeft behind :=
    afterExact?_eq_some_iff.mp closes ▸ List.suffix_append _ _
  exact inBehind.trans ((List.dropWhile_suffix _).trans (afterKeyword?_suffix behindName))

/-- Putting the text in front of a tag in its place is harmless. -/
theorem isHarmless_trimTag : IsHarmless trimTag := by
  intro before text replacement rest found
  simp only [trimTag, Option.bind_eq_bind, Option.bind_eq_some_iff, Option.some.injEq,
    Prod.mk.injEq] at found
  obtain ⟨next, behindName, ⟨value, tail⟩, inside, rfl, rfl⟩ := found
  obtain ⟨taken, something, rfl⟩ := isBehind_of_afterTagName? behindName
  obtain ⟨start, behind, rfl⟩ := exists_of_findLeadingText? inside
  have space (taken : List Char) : Shelters [' '] taken :=
    Shelters.of_isCalm (List.cons_ne_nil _ _) (List.all_eq_true.mp rfl) taken
  refine ⟨taken ++ start ++ value ++ behind, ?_, by simp only [List.append_assoc], Or.inl ?_⟩
  · simp only [List.append_assoc]
    exact List.append_ne_nil_of_left_ne_nil something _
  · exact Shelters.append (Shelters.append (space (taken ++ start)) (Shelters.refl value))
      (space behind)

/-- Putting a space in the place of a tag is harmless. -/
theorem isHarmless_anyTag : IsHarmless anyTag := by
  apply IsHarmless.of_isCalm
  intro before text replacement rest found
  simp only [anyTag, Option.bind_eq_bind, Option.bind_eq_some_iff, Option.some.injEq,
    Prod.mk.injEq] at found
  obtain ⟨next, opens, _, _, tail, closes, rfl, rfl⟩ := found
  refine ⟨?_, List.cons_ne_nil _ _, List.all_eq_true.mp rfl⟩
  apply (isBehind_of_afterExact? (List.cons_ne_nil _ _) opens).of_suffix
  have inClosing := afterExact?_eq_some_iff.mp closes ▸ List.suffix_append _ tail
  exact inClosing.trans ((suffix_of_skipMark _ _).trans ((List.dropWhile_suffix _).trans
    ((suffix_of_afterAttributes _ _).trans ((List.dropWhile_suffix _).trans
      (suffix_of_skipMark _ _)))))

/-- Putting a space in the place of a mark without its partner is harmless. -/
theorem isHarmless_strayMark : IsHarmless strayMark := by
  apply IsHarmless.of_isCalm
  intro before text replacement rest found
  unfold strayMark at found
  split at found
  · next opens =>
      obtain ⟨rfl, rfl⟩ := Prod.mk.inj (Option.some_inj.mp found)
      exact ⟨isBehind_of_afterExact? (by decide) opens, List.cons_ne_nil _ _, List.all_eq_true.mp rfl⟩
  · obtain ⟨behind, closes, equal⟩ := Option.map_eq_some_iff.mp found
    obtain ⟨rfl, rfl⟩ := Prod.mk.inj equal
    exact ⟨isBehind_of_afterExact? (by decide) closes, List.cons_ne_nil _ _, List.all_eq_true.mp rfl⟩

/-- Putting something calm in the place of a mark is harmless. -/
theorem isHarmless_exact
    {mark replacement : List Char}
    (isMark : mark ≠ [])
    (something : replacement ≠ [])
    (calm : ∀ character ∈ replacement, isCalm character = true) :
    IsHarmless fun _ text =>
      (afterExact? mark text).map fun remaining => (replacement, remaining) := by
  apply IsHarmless.of_isCalm
  intro before text found rest result
  obtain ⟨behind, isHere, equal⟩ := Option.map_eq_some_iff.mp result
  obtain ⟨rfl, rfl⟩ := Prod.mk.inj equal
  exact ⟨isBehind_of_afterExact? isMark isHere, something, calm⟩

end Harmless

section Calm

theorem isCalm_iff
    {character : Char} :
    isCalm character = true ↔ character ∉ ['#', '$', '\x7b', '\x7d'] := by
  simp [isCalm, and_assoc]

/-- What fails for the marks of a placeholder holds of calm characters only. -/
theorem isCalm_of
    (property : Char → Bool)
    {character : Char}
    (fails : ['#', '$', '\x7b', '\x7d'].any property = false)
    (holds : property character = true) : isCalm character = true := by
  rw [isCalm_iff]
  intro mark
  exact List.any_eq_false.mp fails character mark holds

theorem isCalm_of_isBlank
    {character : Char}
    (blank : isBlank character = true) : isCalm character = true :=
  isCalm_of isBlank (by decide) blank

theorem isCalm_of_isWord
    {character : Char}
    (letter : isWord character = true) : isCalm character = true :=
  isCalm_of isWord (by decide) letter

/-- What stands in front of the rest of a text is calm. -/
def IsCalmUpTo (text rest : List Char) : Prop :=
  ∃ taken, text = taken ++ rest ∧ ∀ character ∈ taken, isCalm character = true

namespace IsCalmUpTo

variable
  {text next rest : List Char}

theorem trans
    (first : IsCalmUpTo text next)
    (second : IsCalmUpTo next rest) : IsCalmUpTo text rest := by
  obtain ⟨taken, rfl, calm⟩ := first
  obtain ⟨more, rfl, calmNext⟩ := second
  exact ⟨taken ++ more, by rw [List.append_assoc], List.forall_mem_append.mpr ⟨calm, calmNext⟩⟩

theorem consumed
    (upTo : IsCalmUpTo text rest) :
    ∀ character ∈ Text.consumed text rest, isCalm character = true := by
  obtain ⟨taken, rfl, calm⟩ := upTo
  rw [consumed_append]
  exact calm

theorem dropWhile
    {property : Char → Bool}
    (fails : ['#', '$', '\x7b', '\x7d'].any property = false)
    (text : List Char) : IsCalmUpTo text (text.dropWhile property) := by
  refine ⟨text.takeWhile property, List.takeWhile_append_dropWhile.symm, ?_⟩
  intro character present
  exact isCalm_of property fails (List.mem_takeWhile_imp present)

/-- A keyword is calm. -/
theorem of_afterKeyword?
    {word : List Char}
    (capitals : word.all Char.isUpper = true)
    (found : afterKeyword? word text = some rest) : IsCalmUpTo text rest := by
  obtain ⟨start, rfl, rfl⟩ := afterKeyword?_eq_some_iff.mp found
  refine ⟨start, rfl, ?_⟩
  intro character present
  apply isCalm_of_isWord
  exact isWord_of_fold (List.all_eq_true.mp capitals _ (List.mem_map_of_mem present))

theorem of_afterBlanks?
    (found : afterBlanks? text = some rest) : IsCalmUpTo text rest := by
  obtain ⟨character, others, blank, rfl, rfl⟩ := exists_of_afterBlanks? found
  have first : IsCalmUpTo (character :: others) others :=
    ⟨[character], rfl, by simpa using isCalm_of_isBlank blank⟩
  exact first.trans (dropWhile (by decide) others)

theorem of_afterKeywordAndBlanks?
    {word : List Char}
    (capitals : word.all Char.isUpper = true)
    (found : afterKeywordAndBlanks? word text = some rest) : IsCalmUpTo text rest := by
  obtain ⟨next, behindWord, behindBlanks⟩ := Option.bind_eq_some_iff.mp found
  exact (of_afterKeyword? capitals behindWord).trans (of_afterBlanks? behindBlanks)

theorem of_afterConnective?
    (found : afterConnective? text = some rest) : IsCalmUpTo text rest := by
  obtain ⟨word, filler, behindWord⟩ := exists_of_afterConnective? found
  exact of_afterKeyword? (isUpper_of_mem_fillerWords word filler).2 behindWord

/-- A clause is calm. -/
theorem of_afterClause?
    (found : RepairRule.afterClause? text = some rest) : IsCalmUpTo text rest := by
  have two {first second : List Char}
      (capitals : first.all Char.isUpper = true ∧ second.all Char.isUpper = true)
      (found : (afterKeywordAndBlanks? first text).bind (afterKeyword? second) = some rest) :
      IsCalmUpTo text rest := by
    obtain ⟨next, behindFirst, behindSecond⟩ := Option.bind_eq_some_iff.mp found
    exact (of_afterKeywordAndBlanks? capitals.1 behindFirst).trans
      (of_afterKeyword? capitals.2 behindSecond)
  simp only [RepairRule.afterClause?, Option.orElse_eq_orElse, Option.orElse_eq_or,
    Option.or_eq_some_iff] at found
  rcases found with order | ⟨_, group | ⟨_, having | ⟨_, limit⟩⟩⟩
  · exact two (by decide) order
  · exact two (by decide) group
  · exact of_afterKeyword? (by decide) having
  · exact of_afterKeyword? (by decide) limit

/-- The end of a list is calm. -/
theorem of_afterListEnd?
    (found : RepairRule.afterListEnd? text = some rest) : IsCalmUpTo text rest := by
  have clause {word : List Char}
      (capitals : word.all Char.isUpper = true)
      (found : ∃ next, afterKeyword? word text = some next ∧
        ∃ done, check? (endsWord next) = some done ∧ some next = some rest) :
      IsCalmUpTo text rest := by
    obtain ⟨next, behindWord, _, _, same⟩ := found
    exact Option.some_inj.mp same ▸ of_afterKeyword? capitals behindWord
  simp only [RepairRule.afterListEnd?, Option.bind_eq_bind, Option.orElse_eq_orElse,
    Option.orElse_eq_or, Option.or_eq_some_iff, Option.bind_eq_some_iff] at found
  rcases found with behindFrom | ⟨_, behindWhere | ⟨_, bracket | ⟨_, ending⟩⟩⟩
  · exact clause (by decide) behindFrom
  · exact clause (by decide) behindWhere
  · exact ⟨[')'], afterExact?_eq_some_iff.mp bracket, List.all_eq_true.mp rfl⟩
  · obtain ⟨_, atEnd, rfl⟩ := Option.map_eq_some_iff.mp ending
    exact ⟨[], eq_nil_of_atEnd? atEnd, List.all_eq_true.mp rfl⟩

end IsCalmUpTo

end Calm

/-- A clause holds something. -/
theorem RepairRule.consumed_ne_nil_of_afterClause?
    {text rest : List Char}
    (found : afterClause? text = some rest) : consumed text rest ≠ [] := by
  have shorter : rest.length < text.length := by
    have two {first second : List Char}
        (found : (afterKeywordAndBlanks? first text).bind (afterKeyword? second) = some rest) :
        rest.length < text.length := by
      obtain ⟨next, behindFirst, behindSecond⟩ := Option.bind_eq_some_iff.mp found
      exact Nat.lt_of_le_of_lt (afterKeyword?_suffix behindSecond).length_le
        (afterKeywordAndBlanks?_suffix behindFirst).2
    have one {word : List Char} (something : 0 < word.length)
        (found : afterKeyword? word text = some rest) : rest.length < text.length := by
      obtain ⟨start, rfl, rfl⟩ := afterKeyword?_eq_some_iff.mp found
      rw [List.length_map] at something
      rw [List.length_append]
      omega
    simp only [afterClause?, Option.orElse_eq_orElse, Option.orElse_eq_or,
      Option.or_eq_some_iff] at found
    rcases found with order | ⟨_, group | ⟨_, having | ⟨_, limit⟩⟩⟩
    · exact two order
    · exact two group
    · exact one (by decide) having
    · exact one (by decide) limit
  apply List.ne_nil_of_length_pos
  rw [consumed, List.length_take]
  omega

/-- What a rule puts in the place of a match is calm, and it leaves nothing there only at an end of
the text. -/
theorem RepairRule.isCalm_of_recognize
    {rule : RepairRule}
    {before : Option Char}
    {text replacement rest : List Char}
    (found : rule.recognize before text = some (replacement, rest)) :
    (∀ character ∈ replacement, isCalm character = true) ∧
      (replacement ≠ [] ∨ before = none ∨ rest = []) := by
  have inOrder {first second : List Char}
      (calm : ∀ character ∈ first, isCalm character = true)
      (calmNext : ∀ character ∈ second, isCalm character = true) :
      ∀ character ∈ first ++ second, isCalm character = true :=
    List.forall_mem_append.mpr ⟨calm, calmNext⟩
  cases rule <;>
    simp only [recognize, Option.bind_eq_bind, Option.bind_eq_some_iff, check?_eq_some_iff,
      Option.some.injEq, Prod.mk.injEq, exists_const] at found
  case leadingConnective =>
    obtain ⟨first, _, _, _, _, rfl, rfl⟩ := found
    exact ⟨List.all_eq_true.mp rfl, Or.inr (Or.inl (Option.isNone_iff_eq_none.mp first))⟩
  case duplicateConnective =>
    obtain ⟨_, _, _, _, _, _, _, _, rfl, rfl⟩ := found
    exact ⟨List.all_eq_true.mp rfl, Or.inl (by decide)⟩
  case duplicateWhere =>
    obtain ⟨_, _, _, _, _, _, rfl, rfl⟩ := found
    exact ⟨List.all_eq_true.mp rfl, Or.inl (by decide)⟩
  case whereConnective =>
    obtain ⟨_, _, _, _, _, _, _, rfl, rfl⟩ := found
    exact ⟨List.all_eq_true.mp rfl, Or.inl (by decide)⟩
  case trailingConnective =>
    obtain ⟨_, _, _, _, _, _, rfl, rfl⟩ := found
    exact ⟨List.all_eq_true.mp rfl, Or.inr (Or.inr rfl)⟩
  case emptyWhere =>
    obtain ⟨_, clause, _, _, behindClause, _, rfl, rfl⟩ := found
    exact ⟨(IsCalmUpTo.of_afterClause? behindClause).consumed,
      Or.inl (consumed_ne_nil_of_afterClause? behindClause)⟩
  case trailingWhere =>
    obtain ⟨_, _, _, _, _, rfl, rfl⟩ := found
    exact ⟨List.all_eq_true.mp rfl, Or.inr (Or.inr rfl)⟩
  case danglingComma =>
    obtain ⟨_, _, _, behindList, rfl, rfl⟩ := found
    have space : ∀ character ∈ [' '], isCalm character = true := List.all_eq_true.mp rfl
    refine ⟨?_, Or.inl (List.cons_ne_nil _ _)⟩
    exact inOrder space (IsCalmUpTo.of_afterListEnd? behindList).consumed
  case fromConnective =>
    obtain ⟨_, table, _, _, _, _, _, _, behindConnective, _, rfl, rfl⟩ := found
    have name := (@IsCalmUpTo.dropWhile isNameCharacter (by decide) table).consumed
    refine ⟨?_, Or.inl ?_⟩
    · exact inOrder (inOrder (inOrder (List.all_eq_true.mp rfl) name) (List.all_eq_true.mp rfl))
        (IsCalmUpTo.of_afterConnective? behindConnective).consumed
    · simp
  case bareFrom =>
    obtain ⟨_, table, behindFrom, letter, starts, rfl, rfl⟩ := found
    refine ⟨inOrder (List.all_eq_true.mp rfl) (IsCalmUpTo.consumed ?_), Or.inl (by simp)⟩
    apply (IsCalmUpTo.of_afterKeywordAndBlanks? (by decide) behindFrom).trans
    obtain ⟨isFirst, isLetter⟩ := Option.filter_eq_some_iff.mp starts
    obtain ⟨others, rfl⟩ := List.head?_eq_some_iff.mp isFirst
    exact ⟨[letter], rfl, by simpa using isCalm_of_isWord isLetter⟩
  case bareSelect =>
    obtain ⟨_, _, _, _, _, rfl, rfl⟩ := found
    exact ⟨List.all_eq_true.mp rfl, Or.inl (by decide)⟩

/-- Repairs are harmless. -/
theorem RepairRule.isHarmless_recognize
    (rule : RepairRule) : IsHarmless rule.recognize := by
  intro before text replacement rest found
  obtain ⟨calm, something⟩ := isCalm_of_recognize found
  obtain ⟨mend, next, -, mends⟩ := isMended_recognize found
  obtain ⟨taken, whole⟩ := mends.rest_suffix.trans mends.next_suffix
  refine ⟨taken, ?_, whole.symm, ?_⟩
  · rintro rfl
    have shorter := mends.shorter
    rw [← whole] at shorter
    exact Nat.lt_irrefl _ shorter
  · by_cases nothing : replacement = []
    · exact Or.inr ⟨nothing, something.resolve_left (not_not.mpr nothing)⟩
    · exact Or.inl (Shelters.of_isCalm nothing calm taken)

section Line

theorem Opening.closes_cons_of_isCalm
    {character : Char}
    (calm : isCalm character = true)
    (state : Opening)
    (rest : List Char) : closes state (character :: rest) = closes (state.read character) rest := by
  have nothing : closes state [character] = false := closes_of_isCalm (by simpa using calm) state
  rw [← List.singleton_append, closes_append, nothing, Bool.false_or]
  rfl

/-- Squeezing blanks closes no placeholder, whatever was read before. -/
theorem Opening.closes_squeeze
    {state other : Opening}
    (atMost : state.AtMost other)
    {text : List Char}
    (closed : closes state (squeeze text) = true) : closes other text = true := by
  induction text generalizing state other with
  | nil => exact closed
  | cons character rest inductionHypothesis =>
      by_cases blank : isBlank character = true
      · have space : ∀ character ∈ [' '], isCalm character = true := List.all_eq_true.mp rfl
        have atMostBehind : (state.read ' ').AtMost (other.read character) :=
          (Shelters.of_isCalm (List.cons_ne_nil _ _) space [character] state other atMost).2
        rw [closes_cons_of_isCalm (isCalm_of_isBlank blank)]
        apply inductionHypothesis atMostBehind
        rw [squeeze_cons_of_isBlank rest blank] at closed
        split at closed
        · next again =>
            -- The space for these blanks is still to come, and a second space changes nothing.
            have same : (state.read ' ').read ' ' = state.read ' ' := by cases state <;> rfl
            rw [squeeze_of_startsBlank again, closes_cons_of_isCalm rfl] at closed ⊢
            rwa [same]
        · rwa [closes_cons_of_isCalm rfl] at closed
      · rw [Bool.not_eq_true] at blank
        rw [squeeze_cons_of_not_isBlank rest blank, ← List.singleton_append, closes_append,
          Bool.or_eq_true] at closed
        rw [← List.singleton_append, closes_append, Bool.or_eq_true]
        exact closed.imp atMost.closes (inductionHypothesis (atMost.read character))

/-- What is trimmed stands inside of the text. -/
theorem trim_isInfix (text : List Char) : trim text <:+: text := by
  have trimmed (text : List Char) : trimRight text <+: text := by
    induction text with
    | nil => exact List.prefix_refl _
    | cons character rest inductionHypothesis =>
        by_cases blank : isBlank character = true
        · rw [trimRight_cons_of_isBlank rest blank]
          split
          · exact List.nil_prefix
          · exact List.cons_prefix_cons.mpr ⟨rfl, inductionHypothesis⟩
        · rw [Bool.not_eq_true] at blank
          rw [trimRight_cons_of_not_isBlank rest blank]
          exact List.cons_prefix_cons.mpr ⟨rfl, inductionHypothesis⟩
  exact (trimmed (trimLeft text)).isInfix.trans (List.dropWhile_suffix _).isInfix

/-- Putting a text on one line puts no placeholder into it. -/
theorem HoldsPlaceholder.of_collapse
    {text : List Char}
    (holds : HoldsPlaceholder (collapse text)) : HoldsPlaceholder text := by
  have squeezed := holds.of_part (trim_isInfix _)
  rw [← Opening.closes_shut_iff] at squeezed ⊢
  exact Opening.closes_squeeze (Opening.AtMost.refl _) squeezed

/-- Reading entities puts no placeholder into a text. -/
theorem HoldsPlaceholder.of_readEntities
    {text : List Char}
    (holds : HoldsPlaceholder (readEntities text)) : HoldsPlaceholder text := by
  have each : ∀ entity ∈ entities, entity.1.toList ≠ [] ∧ isCalm entity.2 = true := by decide
  unfold readEntities at holds
  generalize entities = known at each holds
  induction known generalizing text with
  | nil => exact holds
  | cons entity others inductionHypothesis =>
      rw [List.forall_mem_cons] at each
      obtain ⟨isMark, calm⟩ := each.1
      have harmless := isHarmless_exact isMark (List.cons_ne_nil entity.2 []) (by simpa using calm)
      exact harmless.of_replaceAll (inductionHypothesis each.2 holds)

end Line

/-- The normal form of a text holds no placeholder. -/
theorem not_holdsPlaceholder_normalize
    (text : List Char) : ¬ HoldsPlaceholder (normalize text).text := by
  have whereTag : IsHarmless (keywordTag "WHERE".toList) := isHarmless_keywordTag (List.all_eq_true.mp rfl)
  have setTag : IsHarmless (keywordTag "SET".toList) := isHarmless_keywordTag (List.all_eq_true.mp rfl)
  intro holds
  simp only [normalize, Normal.replace, Normal.replacePlaceholders, Normal.replaceTags] at holds
  -- Backwards from the last step to the one that replaces the placeholders.
  apply not_holdsPlaceholder_replaceAll (replaceAll protectedSection text)
  apply isHarmless_comment.of_replaceAll
  apply isHarmless_keySelection.of_replaceAll
  apply isHarmless_repetition.of_replaceAll
  apply whereTag.of_replaceAll
  apply setTag.of_replaceAll
  apply isHarmless_trimTag.of_replaceAll
  apply isHarmless_anyTag.of_replaceAll
  apply isHarmless_strayMark.of_replaceAll
  exact holds.of_collapse.of_readEntities

/-- Repairing a text puts no placeholder into it. -/
theorem not_holdsPlaceholder_repair
    {text : List Char}
    (absent : ¬ HoldsPlaceholder text) : ¬ HoldsPlaceholder (repair text).text := by
  refine repair_induction (motive := fun text => ¬ HoldsPlaceholder text) ?_ absent
  intro rule text changed mended absent holds
  rw [← (RepairRule.mend?_eq_some_iff.mp mended).1] at holds
  exact absent (rule.isHarmless_recognize.of_replaceAll holds.of_collapse)

/-- A prepared text stands on one line, holds no placeholder and has the shape of a statement. -/
theorem prepare_canonical
    (text : List Char) :
    collapse (prepare text).sql = (prepare text).sql ∧
      ¬ HoldsPlaceholder (prepare text).sql ∧ hasStatementShape (prepare text).sql = true := by
  have repaired : IsCollapsed (repair (normalize text).text).text ∧
      ¬ HoldsPlaceholder (repair (normalize text).text).text :=
    ⟨isCollapsed_repair (isCollapsed_normalize text),
      not_holdsPlaceholder_repair (not_holdsPlaceholder_normalize text)⟩
  unfold prepare
  dsimp only
  generalize repair (normalize text).text = result at repaired
  split
  · next shaped =>
      obtain ⟨⟨source, equal⟩, absent⟩ := repaired
      exact ⟨by rw [equal, collapse_collapse], absent, shaped⟩
  · refine ⟨by decide +kernel, ?_, by decide +kernel⟩
    rw [← Opening.closes_shut_iff]
    decide

end Template
end TableReach
