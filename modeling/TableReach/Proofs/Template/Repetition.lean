import TableReach.Proofs.Template.Placeholder
import TableReach.Proofs.Text.Letter
import Mathlib.Data.List.TakeWhile

/-!
# Nested repetitions

A repetition is an element whose content may hold further repetitions, nested to any depth.
The search for it ends at the first closing tag behind its opening tag, whichever element that tag
belongs to.  So with a repetition in its content only a part of the element is found, and the
rest of it stays in the text.
-/

namespace TableReach
namespace Template

open Text

/-- The list that stands for a repetition. -/
def oneItem : List Char :=
  [' ', '(', '1', ')', ' ']

/-- The opening tag of a repetition: its name in any case, and attributes without a `>`. -/
structure Opener where
  /-- The name as it is written. -/
  name : List Char
  /-- What stands between the name and the end of the tag. -/
  attributes : List Char
  /-- The name is that of a repetition. -/
  same : name.map fold = "FOREACH".toList
  /-- The attributes do not continue the name. -/
  ends : endsWord attributes = true
  /-- The tag ends with its first `>`. -/
  whole : '>' ∉ attributes

/-- A closing tag of an element: its name, and blanks behind it. -/
structure ClosingTag where
  /-- The name as it is written. -/
  name : List Char
  /-- What stands between the name and the end of the tag. -/
  gap : List Char
  /-- The name starts with an ASCII letter. -/
  alpha : ∃ first others, name = first :: others ∧ first.isAlpha = true
  /-- The name goes on to the blanks. -/
  letters : ∀ character ∈ name, isTagNameCharacter character = true
  /-- Only blanks stand behind the name. -/
  blank : ∀ character ∈ gap, isBlank character = true

/-- The closing tag of a repetition: its name in any case. -/
structure Closer extends ClosingTag where
  /-- The name is that of a repetition. -/
  same : name.map fold = "FOREACH".toList

/-- The opening tag as it is written. -/
def Opener.written (opener : Opener) : List Char :=
  '<' :: opener.name ++ opener.attributes ++ ['>']

/-- What stands between the two ends of a closing tag. -/
def ClosingTag.inside (tag : ClosingTag) : List Char :=
  '/' :: tag.name ++ tag.gap

/-- The closing tag as it is written. -/
def ClosingTag.written (tag : ClosingTag) : List Char :=
  '<' :: tag.inside ++ ['>']

/-- A closing tag of a repetition stands in the text. -/
def HoldsCloser (text : List Char) : Prop :=
  ∃ closer : Closer, closer.written <:+: text

/-- The content of a repetition: text, and elements with more content behind each. -/
inductive Content where
  /-- Text without a closing tag. -/
  | text
      (letters : List Char)
      (free : ¬ HoldsCloser letters)
  /-- Text, a repetition in it, and what stands behind that. -/
  | nest
      (letters : List Char)
      (free : ¬ HoldsCloser letters)
      (opener : Opener)
      (single : ¬ HoldsCloser opener.written)
      (inside : Content)
      (closer : Closer)
      (behind : Content)

/-- A repetition: its tags and its content. -/
structure Repetition where
  /-- The opening tag. -/
  opener : Opener
  /-- What stands between the tags. -/
  content : Content
  /-- The closing tag. -/
  closer : Closer

/-- The content as it is written. -/
def Content.written : Content → List Char
  | text letters _ => letters
  | nest letters _ opener _ inside closer behind =>
      letters ++ opener.written ++ inside.written ++ closer.written ++ behind.written

/-- What stands behind the first closing tag of a content and its closing tag. -/
def Content.tail : Content → Closer → List Char
  | text _ _, _ => []
  | nest _ _ _ _ inside inner behind, closer =>
      inside.tail inner ++ behind.written ++ closer.written

namespace Repetition

/-- The repetition as it is written. -/
def written (element : Repetition) : List Char :=
  element.opener.written ++ element.content.written ++ element.closer.written

/-- What stands in the repetition behind the first closing tag. -/
def tail (element : Repetition) : List Char :=
  element.content.tail element.closer

end Repetition

section Tags

theorem isWord_of_mem_name
    {name : List Char}
    {character : Char}
    (same : name.map fold = "FOREACH".toList)
    (present : character ∈ name) : isWord character = true := by
  have folded : fold character ∈ "FOREACH".toList := same ▸ List.mem_map_of_mem present
  exact isWord_of_fold (List.all_eq_true.mp (by decide) _ folded)

/-- The name starts with an ASCII letter, however it is written. -/
theorem exists_first_of_fold
    {name : List Char}
    (same : name.map fold = "FOREACH".toList) :
    ∃ first others, name = first :: others ∧ first.isAlpha = true := by
  cases name with
  | nil => cases same
  | cons first others =>
      have folded : fold first = 'F' := (List.cons.inj same).1
      have upper : first.toUpper = 'F' := by
        rw [toUpper_eq_fold (by rw [folded]; decide) (by rw [folded]; decide), folded]
      refine ⟨first, others, rfl, ?_⟩
      exact of_isUpper_toUpper (fun letter => letter.isAlpha = true) (by decide)
        (by rw [upper]; rfl)

/-- The closing tag of a repetition with a name and blanks. -/
def Closer.ofName
    (name gap : List Char)
    (same : name.map fold = "FOREACH".toList)
    (blank : ∀ character ∈ gap, isBlank character = true) : Closer where
  name := name
  gap := gap
  alpha := exists_first_of_fold same
  letters := by
    intro character present
    rw [isTagNameCharacter, isWord_of_mem_name same present]
    rfl
  blank := blank
  same := same

namespace ClosingTag

variable
  {tag : ClosingTag}

/-- Neither end of a tag stands inside a closing tag. -/
theorem notMem_inside
    {mark : Char}
    (isEnd : mark = '<' ∨ mark = '>')
    (tag : ClosingTag) : mark ∉ tag.inside := by
  rw [inside, List.cons_append, List.mem_cons, List.mem_append, not_or, not_or]
  refine ⟨?_, ?_, ?_⟩
  · rcases isEnd with rfl | rfl <;> decide
  · intro present
    have inName := tag.letters _ present
    rcases isEnd with rfl | rfl
    · exact absurd inName (by decide)
    · exact absurd inName (by decide)
  · intro present
    have blank := tag.blank _ present
    rcases isEnd with rfl | rfl
    · exact absurd blank (by decide)
    · exact absurd blank (by decide)

/-- A closing tag ends with its first `>`. -/
theorem eq_nil_of_end
    {start rest : List Char}
    (split : tag.written = start ++ '>' :: rest) : rest = [] := by
  have noEnd : '>' ∉ '<' :: tag.inside := by
    rw [List.mem_cons, not_or]
    exact ⟨by decide, notMem_inside (Or.inr rfl) tag⟩
  rcases List.append_eq_append_iff.mp split with ⟨more, -, last⟩ | ⟨more, inside, last⟩
  · cases more with
    | nil => exact (List.cons.inj last).2.symm
    | cons character more => simp at last
  · cases more with
    | nil => exact (List.cons.inj last).2
    | cons character more =>
        obtain ⟨rfl, -⟩ := List.cons.inj last
        exact absurd (inside ▸ List.mem_append_right _ List.mem_cons_self) noEnd

theorem notMem_tail
    (tag : ClosingTag) : '<' ∉ tag.inside ++ ['>'] := by
  rw [List.mem_append, not_or]
  exact ⟨notMem_inside (Or.inl rfl) tag, by decide⟩

/-- A `<` in a closing tag is its start. -/
theorem eq_nil_of_start
    {start rest : List Char}
    (split : tag.written = start ++ '<' :: rest) : start = [] := by
  cases start with
  | nil => rfl
  | cons character start =>
      rw [written, List.cons_append, List.cons_append] at split
      have inside := (List.cons.inj split).2
      exact absurd (inside ▸ List.mem_append_right _ List.mem_cons_self) tag.notMem_tail

/-- A closing tag that starts in a text and crosses no end of a tag stands in that text. -/
theorem prefix_of_seam
    {start rest behind : List Char}
    (something : start ≠ [])
    (seam : start.getLast? = some '>' ∨ rest.head? = some '<')
    (split : start ++ rest = tag.written ++ behind) : tag.written <+: start := by
  rcases List.append_eq_append_iff.mp split with ⟨more, longer, behindMore⟩ | ⟨more, whole, -⟩
  · cases more with
    | nil =>
        rw [List.append_nil] at longer
        exact longer ▸ List.prefix_refl _
    | cons character more =>
        rcases seam with ends | starts
        · obtain ⟨others, rfl⟩ := List.getLast?_eq_some_iff.mp ends
          rw [List.append_assoc, List.singleton_append] at longer
          cases eq_nil_of_end longer
        · rw [behindMore, List.cons_append, List.head?_cons, Option.some_inj] at starts
          subst starts
          exact absurd (eq_nil_of_start longer) something
  · exact ⟨more, whole.symm⟩

end ClosingTag

/-- What stands behind a closing tag is what is found behind one. -/
theorem Closer.afterClosingTag?_eq_some_iff
    {text rest : List Char} :
    afterClosingTag? "FOREACH".toList text = some rest ↔
      ∃ closer : Closer, text = closer.written ++ rest := by
  simp only [afterClosingTag?, Option.bind_eq_bind, Option.bind_eq_some_iff,
    afterExact?_eq_some_iff, afterKeyword?_eq_some_iff]
  constructor
  · rintro ⟨_, rfl, behind, ⟨name, rfl, same⟩, trimmed⟩
    have blank : ∀ character ∈ behind.takeWhile isBlank, isBlank character = true :=
      fun _ present => List.mem_takeWhile_imp present
    have split : behind = behind.takeWhile isBlank ++ '>' :: rest := by
      rw [← List.singleton_append, ← trimmed, trimLeft, List.takeWhile_append_dropWhile]
    refine ⟨.ofName name (behind.takeWhile isBlank) same blank, ?_⟩
    simp [ClosingTag.written, ClosingTag.inside, ofName, ← split]
  · rintro ⟨closer, rfl⟩
    refine ⟨closer.name ++ closer.gap ++ ['>'] ++ rest, ?_, closer.gap ++ '>' :: rest,
      ⟨closer.name, by simp, closer.same⟩, ?_⟩
    · simp [ClosingTag.written, ClosingTag.inside]
    · rw [trimLeft, List.dropWhile_append_of_pos closer.blank]
      rfl

/-- The search for a closing tag passes over a text without one up to the end of a tag. -/
theorem afterFirst?_append
    {start rest : List Char}
    (free : ¬ HoldsCloser start)
    (seam : start.getLast? = some '>' ∨ rest.head? = some '<') :
    afterFirst? (afterClosingTag? "FOREACH".toList) (start ++ rest) =
      afterFirst? (afterClosingTag? "FOREACH".toList) rest := by
  induction start with
  | nil => rfl
  | cons character start inductionHypothesis =>
      have notHere : afterClosingTag? "FOREACH".toList (character :: start ++ rest) = none := by
        rw [Option.eq_none_iff_forall_ne_some]
        intro behind found
        obtain ⟨closer, split⟩ := Closer.afterClosingTag?_eq_some_iff.mp found
        have stands := ClosingTag.prefix_of_seam (List.cons_ne_nil _ _) seam split
        exact free ⟨closer, stands.isInfix⟩
      rw [List.cons_append] at notHere
      rw [List.cons_append, afterFirst?, notHere]
      cases start with
      | nil => rfl
      | cons next start =>
          apply inductionHypothesis
          · rintro ⟨closer, inside⟩
            exact free ⟨closer, inside.trans (List.suffix_cons _ _).isInfix⟩
          · rw [List.getLast?_cons_cons] at seam
            exact seam

theorem afterFirst?_closer
    (closer : Closer)
    (rest : List Char) :
    afterFirst? (afterClosingTag? "FOREACH".toList) (closer.written ++ rest) = some rest := by
  have here : afterClosingTag? "FOREACH".toList (closer.written ++ rest) = some rest :=
    Closer.afterClosingTag?_eq_some_iff.mpr ⟨closer, rfl⟩
  rw [ClosingTag.written, List.cons_append, List.cons_append] at here ⊢
  rw [afterFirst?, here]

end Tags

/-- The first closing tag behind the opening one is that of the first repetition without another
one in it. -/
theorem Content.afterFirst?_written
    (content : Content)
    (closer : Closer)
    (rest : List Char) :
    afterFirst? (afterClosingTag? "FOREACH".toList) (content.written ++ closer.written ++ rest) =
      some (content.tail closer ++ rest) := by
  induction content generalizing closer rest with
  | text letters free =>
      rw [written, List.append_assoc, afterFirst?_append free (Or.inr rfl), afterFirst?_closer, tail,
        List.nil_append]
  | nest letters free opener single inside inner behind insideHypothesis _ =>
      have ends : opener.written.getLast? = some '>' := List.getLast?_concat
      have regrouped : (nest letters free opener single inside inner behind).written ++
            closer.written ++ rest =
          letters ++ (opener.written ++ (inside.written ++ inner.written ++
            (behind.written ++ closer.written ++ rest))) := by
        simp only [written, List.append_assoc]
      rw [regrouped, afterFirst?_append free (Or.inr rfl), afterFirst?_append single (Or.inl ends),
        insideHypothesis, tail]
      simp only [List.append_assoc]

/-- An opening tag is passed over. -/
theorem Opener.afterTagEnd?_written
    (opener : Opener)
    (rest : List Char) :
    (afterTagName? "FOREACH".toList (opener.written ++ rest)).bind afterTagEnd? = some rest := by
  have named : afterTagName? "FOREACH".toList (opener.written ++ rest) =
      some (opener.attributes ++ '>' :: rest) := by
    have found : afterKeyword? "FOREACH".toList
        (opener.name ++ (opener.attributes ++ '>' :: rest)) =
          some (opener.attributes ++ '>' :: rest) :=
      afterKeyword?_eq_some_iff.mpr ⟨opener.name, rfl, opener.same⟩
    have ends : endsWord (opener.attributes ++ '>' :: rest) = true := by
      have attributesEnd := opener.ends
      generalize opener.attributes = attributes at attributesEnd ⊢
      cases attributes with
      | nil => rfl
      | cons first others => exact attributesEnd
    have regrouped : opener.written ++ rest =
        '<' :: (opener.name ++ (opener.attributes ++ '>' :: rest)) := by
      simp [written]
    rw [regrouped]
    change (afterKeyword? _ _).bind _ = _
    rw [found, Option.bind_some, if_pos ends]
  rw [named, Option.bind_some, afterTagEnd?, splitAtMark?_of_notMem opener.whole]
  rfl

/-- What stands behind the first closing tag is an end of what is written. -/
theorem Content.exists_head
    (content : Content)
    (closer : Closer) :
    ∃ head, content.written ++ closer.written = head ++ content.tail closer := by
  induction content generalizing closer with
  | text letters free => exact ⟨letters ++ closer.written, (List.append_nil _).symm⟩
  | nest letters free opener single inside inner behind insideHypothesis _ =>
      obtain ⟨head, split⟩ := insideHypothesis inner
      refine ⟨letters ++ opener.written ++ head, ?_⟩
      calc letters ++ opener.written ++ inside.written ++ inner.written ++ behind.written ++
            closer.written
        _ = letters ++ opener.written ++ (inside.written ++ inner.written) ++ behind.written ++
            closer.written := by simp only [List.append_assoc]
        _ = letters ++ opener.written ++ head ++
            (inside.tail inner ++ behind.written ++ closer.written) := by
          rw [split]
          simp only [List.append_assoc]

/-- A repetition is found up to its first closing tag. -/
theorem Repetition.repetition_written
    (element : Repetition)
    (before : Option Char)
    (rest : List Char) :
    repetition before (element.written ++ rest) = some (oneItem, element.tail ++ rest) := by
  have regrouped : element.written ++ rest = element.opener.written ++
      (element.content.written ++ element.closer.written ++ rest) := by
    simp only [written, List.append_assoc]
  have found : afterElement? "FOREACH".toList (element.written ++ rest) =
      some (element.tail ++ rest) := by
    change (afterTagName? _ _).bind (fun rest => (afterTagEnd? rest).bind _) = _
    rw [← Option.bind_assoc, regrouped, Opener.afterTagEnd?_written, Option.bind_some,
      Content.afterFirst?_written, tail]
  have list : " (1) ".toList = oneItem := by decide
  rw [repetition, found, Option.map_some, list]

/-- A repetition is replaced up to its first closing tag. -/
theorem Repetition.replaceAll_written
    (element : Repetition)
    (rest : List Char) :
    replaceAll repetition (element.written ++ rest) =
      oneItem ++ replaceAll repetition (element.tail ++ rest) := by
  obtain ⟨head, split⟩ := element.content.exists_head element.closer
  have whole : element.written ++ rest = element.opener.written ++ head ++ (element.tail ++ rest) := by
    rw [written, List.append_assoc element.opener.written, split, tail]
    simp only [List.append_assoc]
  have something : element.opener.written ++ head ≠ [] :=
    List.append_ne_nil_of_left_ne_nil (List.cons_ne_nil _ _) _
  have found := element.repetition_written none rest
  rw [whole] at found ⊢
  exact replaceAll_append something found

/-- Blanks and the end of a tag hold no attribute and continue no name. -/
theorem afterAttribute?_of_blanks
    {gap : List Char}
    (blank : ∀ character ∈ gap, isBlank character = true)
    (rest : List Char) :
    (gap ++ '>' :: rest).dropWhile isTagNameCharacter = gap ++ '>' :: rest ∧
      trimLeft (gap ++ '>' :: rest) = '>' :: rest ∧
      ∀ limit, afterAttributes limit (gap ++ '>' :: rest) = gap ++ '>' :: rest := by
  have trimmed {gap : List Char} (blank : ∀ character ∈ gap, isBlank character = true) :
      trimLeft (gap ++ '>' :: rest) = '>' :: rest := by
    rw [trimLeft, List.dropWhile_append_of_pos blank]
    rfl
  have noAttribute : afterAttribute? (gap ++ '>' :: rest) = none := by
    cases gap with
    | nil => rfl
    | cons first gap =>
        rw [List.forall_mem_cons] at blank
        have behind : afterBlanks? (first :: gap ++ '>' :: rest) = some ('>' :: rest) := by
          rw [List.cons_append, afterBlanks?, if_pos blank.1, trimmed blank.2]
        rw [afterAttribute?, behind]
        rfl
  refine ⟨?_, trimmed blank, ?_⟩
  · cases gap with
    | nil => rfl
    | cons first gap =>
        have isBlankFirst := blank first List.mem_cons_self
        have noName := eq_false_of_isBlank isTagNameCharacter (by decide +kernel) isBlankFirst
        exact List.dropWhile_cons_of_neg (by simp [noName])
  · intro limit
    cases limit with
    | zero => rfl
    | succ limit => rw [afterAttributes, noAttribute]

/-- A closing tag of any element is found where no other step found it. -/
theorem ClosingTag.anyTag_written
    (tag : ClosingTag)
    (before : Option Char)
    (rest : List Char) : anyTag before (tag.written ++ rest) = some ([' '], rest) := by
  obtain ⟨first, others, name, alpha⟩ := tag.alpha
  obtain ⟨noName, trimmed, noAttributes⟩ := afterAttribute?_of_blanks tag.blank rest
  have regrouped : tag.written ++ rest =
      '<' :: '/' :: (tag.name ++ (tag.gap ++ '>' :: rest)) := by
    simp [written, inside]
  have letter : (tag.name ++ (tag.gap ++ '>' :: rest)).head?.filter Char.isAlpha = some first := by
    rw [name]
    simp [alpha]
  have skipped : skipMark '/' ('/' :: (tag.name ++ (tag.gap ++ '>' :: rest))) =
      tag.name ++ (tag.gap ++ '>' :: rest) :=
    rfl
  rw [regrouped]
  change ((skipMark '/' _).head?.filter Char.isAlpha).bind _ = _
  rw [skipped, letter, Option.bind_some, List.dropWhile_append_of_pos tag.letters, noName]
  dsimp only
  rw [noAttributes, trimmed]
  rfl

end Template
end TableReach
