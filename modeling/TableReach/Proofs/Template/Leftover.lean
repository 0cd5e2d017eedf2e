import TableReach.Proofs.Template.Repetition
import TableReach.Proofs.Template.Protected
import TableReach.Proofs.Text.Words

/-!
# What is left of a repetition

In the normal form a repetition is a list of one item, and behind the list stands what the search
for the repetition did not reach: all that is written behind its first closing tag.  So the list
is all there is of the repetition if nothing but blanks and closing tags stands there.
-/

namespace TableReach
namespace Template

open Text

/-- The steps of the normal form that take out what is no tag of the statement. -/
def openingSteps : List (Recognizer (List Char)) :=
  [protectedSection, placeholder, comment, keySelection]

/-- The steps of the normal form that look for an opening tag by its name. -/
def elementSteps : List (Recognizer (List Char)) :=
  [repetition, keywordTag "WHERE".toList, keywordTag "SET".toList, trimTag]

/-- The steps of the normal form that look for a tag. -/
def tagSteps : List (Recognizer (List Char)) :=
  elementSteps ++ [anyTag]

/-- Take one step after the other. -/
def replaceEach
    (steps : List (Recognizer (List Char)))
    (text : List Char) : List Char :=
  steps.foldl (fun current recognize => replaceAll recognize current) text

/-- The text with its sections opened, and without placeholders, comments and key selections. -/
def opened (text : List Char) : List Char :=
  replaceEach openingSteps text

/-- The normal form of an opened text. -/
def strip (text : List Char) : List Char :=
  collapse (readEntities (replaceAll strayMark (replaceEach tagSteps text)))

/-- The normal form opens a text before it looks for tags. -/
theorem text_normalize
    (text : List Char) : (normalize text).text = strip (opened text) := by
  simp only [normalize, Normal.replace, Normal.replacePlaceholders, Normal.replaceTags, strip,
    opened, replaceEach, openingSteps, tagSteps, elementSteps, List.cons_append, List.nil_append,
    List.foldl_cons, List.foldl_nil]

/-- Text without the ends of tags and the start of entities. -/
def IsBare (text : List Char) : Prop :=
  ∀ character ∈ text, character ∉ markupCharacters

namespace IsBare

variable
  {text other : List Char}

theorem append_iff : IsBare (text ++ other) ↔ IsBare text ∧ IsBare other :=
  List.forall_mem_append

theorem notMem
    {mark : Char}
    (bare : IsBare text)
    (isMark : mark ∈ markupCharacters) : mark ∉ text :=
  fun present => bare mark present isMark

/-- Blanks are bare. -/
theorem of_allBlank
    (blank : allBlank text = true) : IsBare text := by
  intro character present isMark
  have isBlankHere := List.all_eq_true.mp blank character present
  simp only [markupCharacters, List.mem_cons, List.not_mem_nil, or_false] at isMark
  rcases isMark with rfl | rfl | rfl
  · exact absurd isBlankHere (by decide)
  · exact absurd isBlankHere (by decide)
  · exact absurd isBlankHere (by decide)

theorem oneItem : IsBare oneItem := by
  simp [IsBare, Template.oneItem, markupCharacters]

end IsBare

section Steps

variable
  {steps : List (Recognizer (List Char))}
  {recognize : Recognizer (List Char)}
  {start : List Char}

/-- A text without sections, placeholders, comments and key selections is opened. -/
theorem opened_eq_self
    (misses : ∀ recognize ∈ openingSteps, Misses recognize start) : opened start = start := by
  unfold opened replaceEach
  exact foldl_eq_self fun recognize present => (misses recognize present).replaceAll_eq

/-- What every step keeps stays at the start of the text. -/
theorem replaceEach_append
    (keeps : ∀ recognize ∈ steps, ∀ rest,
      replaceAll recognize (start ++ rest) = start ++ replaceAll recognize rest)
    (rest : List Char) : replaceEach steps (start ++ rest) = start ++ replaceEach steps rest := by
  unfold replaceEach
  induction steps generalizing rest with
  | nil => rfl
  | cons recognize steps inductionHypothesis =>
      rw [List.forall_mem_cons] at keeps
      rw [List.foldl_cons, List.foldl_cons, keeps.1, inductionHypothesis keeps.2]

theorem replaceEach_tagSteps
    (text : List Char) :
    replaceEach tagSteps text = replaceAll anyTag (replaceEach elementSteps text) := by
  rw [replaceEach, tagSteps, List.foldl_append, List.foldl_cons, List.foldl_nil, replaceEach]

/-- A step does not look at what stands before a tag. -/
theorem exists_find
    (isStep : recognize ∈ tagSteps) : ∃ find, recognize = fun _ => find := by
  simp only [tagSteps, elementSteps, List.cons_append, List.nil_append, List.mem_cons,
    List.not_mem_nil, or_false] at isStep
  rcases isStep with rfl | rfl | rfl | rfl | rfl <;> exact ⟨_, rfl⟩

/-- No tag is found where no `<` stands. -/
theorem recognize_of_head?_ne
    {text : List Char}
    (isStep : recognize ∈ tagSteps)
    (before : Option Char)
    (different : text.head? ≠ some '<') : recognize before text = none := by
  have noTagName (name : List Char) : afterTagName? name text = none :=
    bind_afterExact?_of_head?_ne different _
  simp only [tagSteps, elementSteps, List.cons_append, List.nil_append, List.mem_cons,
    List.not_mem_nil, or_false] at isStep
  rcases isStep with rfl | rfl | rfl | rfl | rfl
  · simp [repetition, afterElement?, noTagName]
  · exact bind_afterExact?_of_head?_ne different _
  · exact bind_afterExact?_of_head?_ne different _
  · simp [trimTag, noTagName]
  · exact bind_afterExact?_of_head?_ne different _

/-- No opening tag is found where a closing one stands. -/
theorem recognize_closing
    (isStep : recognize ∈ elementSteps)
    (before : Option Char)
    (rest : List Char) : recognize before ('<' :: '/' :: rest) = none := by
  simp only [elementSteps, List.mem_cons, List.not_mem_nil, or_false] at isStep
  rcases isStep with rfl | rfl | rfl | rfl
  · rfl
  · rfl
  · rfl
  · rfl

/-- Text without a `<` is kept, whatever follows. -/
theorem replaceAll_append_of_notMem
    (isStep : recognize ∈ tagSteps)
    (absent : '<' ∉ start)
    (rest : List Char) :
    replaceAll recognize (start ++ rest) = start ++ replaceAll recognize rest := by
  obtain ⟨find, rfl⟩ := exists_find isStep
  apply replaceAll_append_of_missed
  intro character present behind
  apply recognize_of_head?_ne isStep none
  rintro ⟨⟩
  exact absent present

/-- A closing tag is kept by the steps that look for an opening one. -/
theorem replaceAll_closing
    (isStep : recognize ∈ elementSteps)
    (tag : ClosingTag)
    (rest : List Char) :
    replaceAll recognize (tag.written ++ rest) = tag.written ++ replaceAll recognize rest := by
  have isTagStep : recognize ∈ tagSteps := List.mem_append_left _ isStep
  have others := replaceAll_append_of_notMem isTagStep tag.notMem_tail rest
  obtain ⟨find, rfl⟩ := exists_find isTagStep
  have missed : find ('<' :: (tag.inside ++ ['>'] ++ rest)) = none :=
    recognize_closing isStep none _
  rw [ClosingTag.written, List.cons_append, List.cons_append, replaceAll_cons missed, others,
    List.cons_append]

theorem replaceEach_append_of_notMem
    (absent : '<' ∉ start)
    (rest : List Char) :
    replaceEach tagSteps (start ++ rest) = start ++ replaceEach tagSteps rest :=
  replaceEach_append (fun _ isStep => replaceAll_append_of_notMem isStep absent) rest

end Steps

section Entities

/-- Entities are read behind a text without an ampersand. -/
theorem readEntities_append
    {start : List Char}
    (absent : '&' ∉ start)
    (rest : List Char) : readEntities (start ++ rest) = start ++ readEntities rest := by
  have marked : ∀ entity ∈ entities, entity.1.toList.head? = some '&' := by decide
  unfold readEntities
  generalize entities = table at marked
  induction table generalizing rest with
  | nil => rfl
  | cons entity table inductionHypothesis =>
      rw [List.forall_mem_cons] at marked
      obtain ⟨mark, isMark⟩ := List.head?_eq_some_iff.mp marked.1
      rw [List.foldl_cons, List.foldl_cons, isMark, replaceExact_append_of_notMem absent,
        inductionHypothesis _ marked.2]

/-- No mark of a section starts in a bare text that ends with a space. -/
theorem replaceAll_strayMark_append
    {start : List Char}
    (bare : IsBare start)
    (space : start.getLast? = some ' ')
    (rest : List Char) :
    replaceAll strayMark (start ++ rest) = start ++ replaceAll strayMark rest := by
  apply replaceAll_append_of_suffixes
  intro part something suffix
  have noOpening : afterExact? "<![CDATA[".toList (part ++ rest) = none := by
    obtain ⟨first, others, rfl⟩ := List.exists_cons_of_ne_nil something
    have different : first ≠ '<' := by
      rintro rfl
      exact bare.notMem (by decide) (suffix.subset List.mem_cons_self)
    rw [afterExact?_eq_none_iff]
    rintro ⟨behind, same⟩
    exact different (List.cons.inj same).1.symm
  have noClosing : afterExact? "]]>".toList (part ++ rest) = none := by
    rw [afterExact?_eq_none_iff]
    intro starts
    rcases List.prefix_or_prefix_of_prefix starts (List.prefix_append part rest) with inside | short
    · have present : '>' ∈ part := inside.subset (by decide)
      exact bare.notMem (by decide) (suffix.subset present)
    · obtain ⟨front, rfl⟩ := suffix
      rw [List.getLast?_append_of_ne_nil _ something] at space
      exact absurd (short.subset (List.mem_of_getLast? space)) (by decide)
  change strayMark none (part ++ rest) = none
  rw [strayMark, noOpening, noClosing]
  rfl

/-- A bare text that ends with a space stays in front of the normal form of what follows. -/
theorem strip_append
    {start : List Char}
    (bare : IsBare start)
    (space : start.getLast? = some ' ')
    (rest : List Char) : strip (start ++ rest) = collapse (start ++ strip rest) := by
  rw [strip, replaceEach_append_of_notMem (bare.notMem (by decide)),
    replaceAll_strayMark_append bare space, readEntities_append (bare.notMem (by decide)), strip,
    collapse_eq_collapse_iff]
  obtain ⟨front, rfl⟩ := List.getLast?_eq_some_iff.mp space
  rw [List.append_assoc, List.append_assoc, List.singleton_append, List.singleton_append,
    words_append_cons _ rfl, words_append_cons _ rfl, words_collapse]

/-- The normal form of a bare text is the text on one line. -/
theorem strip_of_isBare
    {text : List Char}
    (bare : IsBare text) : strip text = collapse text := by
  have tags : replaceEach tagSteps (text ++ []) = text ++ [] :=
    replaceEach_append_of_notMem (bare.notMem (by decide)) []
  have marks : replaceAll strayMark text = text := by
    apply Misses.replaceAll_eq
    intro before rest suffix
    apply recognize_of_notMem before (by simp)
    · exact fun present => bare.notMem (by decide) (suffix.subset present)
    · exact fun present => bare.notMem (by decide) (suffix.subset present)
  have references : readEntities (text ++ []) = text ++ [] :=
    readEntities_append (bare.notMem (by decide)) []
  rw [List.append_nil] at tags references
  rw [strip, tags, marks, references]

end Entities

/-- In the normal form a part of a text comes to the same as another, wherever no tag is open. -/
def ComesTo (part other : List Char) : Prop :=
  ∀ start rest, '<' ∉ start →
    strip (start ++ (part ++ rest)) = strip (start ++ (other ++ rest))

namespace ComesTo

variable
  {part other next otherNext : List Char}

theorem refl (part : List Char) : ComesTo part part :=
  fun _ _ _ => rfl

theorem trans
    (first : ComesTo part other)
    (second : ComesTo other next) : ComesTo part next :=
  fun start rest absent => (first start rest absent).trans (second start rest absent)

/-- What comes of one part leaves no tag open for the part behind it. -/
theorem append
    (first : ComesTo part other)
    (absent : '<' ∉ other)
    (second : ComesTo next otherNext) : ComesTo (part ++ next) (other ++ otherNext) := by
  intro start rest absentBefore
  have further : '<' ∉ start ++ other := by
    rw [List.mem_append, not_or]
    exact ⟨absentBefore, absent⟩
  rw [List.append_assoc, first _ _ absentBefore, ← List.append_assoc, second _ _ further]
  simp only [List.append_assoc]

end ComesTo

/-- A repetition comes to the list and what stands behind the first closing tag. -/
theorem Repetition.comesTo_oneItem
    (element : Repetition) : ComesTo element.written (oneItem ++ element.tail) := by
  intro start rest absent
  have isStep : repetition ∈ tagSteps := List.mem_cons_self
  have absentInList : '<' ∉ start ++ oneItem := by
    rw [List.mem_append, not_or]
    exact ⟨absent, IsBare.oneItem.notMem (by decide)⟩
  have regrouped : start ++ (oneItem ++ element.tail ++ rest) =
      start ++ oneItem ++ (element.tail ++ rest) := by
    simp only [List.append_assoc]
  have first : replaceAll repetition (start ++ (element.written ++ rest)) =
      replaceAll repetition (start ++ oneItem ++ (element.tail ++ rest)) := by
    rw [replaceAll_append_of_notMem isStep absent, element.replaceAll_written,
      replaceAll_append_of_notMem isStep absentInList, List.append_assoc]
  have steps : replaceEach tagSteps (start ++ (element.written ++ rest)) =
      replaceEach tagSteps (start ++ oneItem ++ (element.tail ++ rest)) := by
    unfold replaceEach tagSteps elementSteps
    rw [List.cons_append, List.foldl_cons, first, List.foldl_cons]
  rw [strip, steps, regrouped, strip]

/-- A closing tag that is left over comes to a space. -/
theorem ClosingTag.comesTo_space
    (tag : ClosingTag) : ComesTo tag.written [' '] := by
  intro start rest absent
  have isStep : anyTag ∈ tagSteps := List.mem_append_right _ List.mem_cons_self
  have early (recognize : Recognizer (List Char)) (isEarly : recognize ∈ elementSteps) :
      recognize ∈ tagSteps := List.mem_append_left _ isEarly
  have keptTag (recognize : Recognizer (List Char)) (isEarly : recognize ∈ elementSteps)
      (rest : List Char) : replaceAll recognize (start ++ tag.written ++ rest) =
        start ++ tag.written ++ replaceAll recognize rest := by
    rw [List.append_assoc, replaceAll_append_of_notMem (early _ isEarly) absent,
      replaceAll_closing isEarly, List.append_assoc]
  have noSpace : '<' ∉ start ++ [' '] := by
    rw [List.mem_append, not_or]
    exact ⟨absent, by decide⟩
  have replaced (rest : List Char) : replaceAll anyTag (tag.written ++ rest) =
      [' '] ++ replaceAll anyTag rest := by
    have found := tag.anyTag_written none rest
    exact replaceAll_append (List.cons_ne_nil _ _) found
  have steps : replaceEach tagSteps (start ++ (tag.written ++ rest)) =
      replaceEach tagSteps (start ++ ([' '] ++ rest)) := by
    rw [replaceEach_tagSteps, replaceEach_tagSteps, ← List.append_assoc, ← List.append_assoc,
      replaceEach_append keptTag,
      replaceEach_append fun _ isEarly => replaceAll_append_of_notMem (early _ isEarly) noSpace,
      List.append_assoc, List.append_assoc, replaceAll_append_of_notMem isStep absent, replaced,
      ← List.append_assoc, ← List.append_assoc, replaceAll_append_of_notMem isStep noSpace]
  rw [strip, steps, strip]

mutual

/-- A content as it stands in the normal form where it is searched itself. -/
def Content.plain : Content → List Char
  | .text letters _ => letters
  | .nest letters _ _ _ inside _ behind => letters ++ oneItem ++ inside.leftover ++ behind.plain

/-- What is left of a content in the normal form where it is searched from an opening tag on:
nothing of it up to the first closing tag. -/
def Content.leftover : Content → List Char
  | .text _ _ => []
  | .nest _ _ _ _ inside _ behind => inside.leftover ++ behind.plain ++ [' ']

end

/-- A part of a text that comes to blanks. -/
def IsVoid (part : List Char) : Prop :=
  ∃ blanks, allBlank blanks = true ∧ ComesTo part blanks

namespace IsVoid

variable
  {part other : List Char}

theorem of_allBlank
    (blank : allBlank part = true) : IsVoid part :=
  ⟨part, blank, .refl part⟩

theorem closing (tag : ClosingTag) : IsVoid tag.written :=
  ⟨[' '], rfl, tag.comesTo_space⟩

/-- So do two such parts, one behind the other. -/
theorem append
    (isVoid : IsVoid part)
    (isVoidBehind : IsVoid other) : IsVoid (part ++ other) := by
  obtain ⟨blanks, blank, comesTo⟩ := isVoid
  obtain ⟨blanksBehind, blankBehind, comesToBehind⟩ := isVoidBehind
  refine ⟨blanks ++ blanksBehind, ?_, ?_⟩
  · rw [allBlank, List.all_append, Bool.and_eq_true]
    exact ⟨blank, blankBehind⟩
  · exact comesTo.append ((IsBare.of_allBlank blank).notMem (by decide)) comesToBehind

/-- Nothing is left of such a part. -/
theorem strip_append_eq
    {after : List Char}
    (isVoid : IsVoid part)
    (bareAfter : IsBare after) : strip (part ++ after) = collapse after := by
  obtain ⟨blanks, blank, comesTo⟩ := isVoid
  have replaced := comesTo [] after List.not_mem_nil
  rw [List.nil_append, List.nil_append] at replaced
  rw [replaced, strip_of_isBare (IsBare.append_iff.mpr ⟨IsBare.of_allBlank blank, bareAfter⟩),
    collapse_eq_line_trimLeft, trimLeft_append_of_allBlank blank, ← collapse_eq_line_trimLeft]

end IsVoid

/-- Nothing but blanks and closing tags. -/
inductive IsIdle : List Char → Prop
  | nil : IsIdle []
  | blank
      {character : Char}
      {rest : List Char}
      (isBlankHere : isBlank character = true)
      (idle : IsIdle rest) :
      IsIdle (character :: rest)
  | closing
      (tag : ClosingTag)
      {rest : List Char}
      (idle : IsIdle rest) :
      IsIdle (tag.written ++ rest)

namespace IsIdle

variable
  {letters : List Char}

/-- Blanks are idle. -/
theorem of_allBlank
    (blank : allBlank letters = true) : IsIdle letters := by
  induction letters with
  | nil => exact .nil
  | cons character letters inductionHypothesis =>
      rw [allBlank, List.all_cons, Bool.and_eq_true] at blank
      exact .blank blank.1 (inductionHypothesis blank.2)

/-- Without closing tags only blanks are idle. -/
theorem allBlank_of_notMem
    (idle : IsIdle letters)
    (absent : '<' ∉ letters) : allBlank letters = true := by
  induction idle with
  | nil => rfl
  | blank isBlankHere idle inductionHypothesis =>
      rw [List.mem_cons, not_or] at absent
      rw [allBlank, List.all_cons, isBlankHere, Bool.true_and]
      exact inductionHypothesis absent.2
  | closing tag idle inductionHypothesis =>
      exact absurd (List.mem_append_left _ List.mem_cons_self) absent

/-- Blanks and closing tags are void. -/
theorem isVoid
    (idle : IsIdle letters) : IsVoid letters := by
  induction idle with
  | nil => exact .of_allBlank rfl
  | @blank character letters isBlankHere idle inductionHypothesis =>
      have first : allBlank [character] = true := by
        rw [allBlank, List.all_cons, isBlankHere]
        rfl
      exact (IsVoid.of_allBlank first).append inductionHypothesis
  | closing tag idle inductionHypothesis => exact (IsVoid.closing tag).append inductionHypothesis

end IsIdle

namespace Content

/-- Nothing but blanks and closing tags of other elements. -/
def IsIdle : Content → Prop
  | text letters _ => Template.IsIdle letters
  | nest _ _ _ _ _ _ _ => False

/-- Nothing but blanks and closing tags stands behind a repetition in the content, and the same in
its own content: all closing tags come together. -/
def IsTidy : Content → Prop
  | text _ _ => True
  | nest _ _ _ _ inside _ behind => inside.IsTidy ∧ behind.IsIdle

/-- Where no other markup is left, what stands behind the first closing tag comes to what is left of
the content, and a content that is searched itself to what it is in the normal form. -/
theorem comesTo_leftover_and_plain
    (content : Content) :
    ('<' ∉ content.leftover → ∀ closer, ComesTo (content.tail closer) content.leftover) ∧
    ('<' ∉ content.plain → ComesTo content.written content.plain) := by
  induction content with
  | text letters free =>
      refine ⟨fun _ closer => ?_, fun _ => ?_⟩
      · rw [tail, leftover]
        exact .refl []
      · rw [written, plain]
        exact .refl letters
  | nest letters free opener single inside inner behind insideHypothesis behindHypothesis =>
      constructor
      · intro absent closer
        simp only [leftover, List.mem_append, not_or] at absent
        obtain ⟨⟨inLeftover, inPlain⟩, -⟩ := absent
        have contents := (insideHypothesis.1 inLeftover inner).append inLeftover
          (behindHypothesis.2 inPlain)
        have further : '<' ∉ inside.leftover ++ behind.plain := by
          rw [List.mem_append, not_or]
          exact ⟨inLeftover, inPlain⟩
        rw [tail, leftover]
        exact contents.append further closer.comesTo_space
      · intro absent
        simp only [plain, List.mem_append, not_or] at absent
        obtain ⟨⟨⟨inLetters, inList⟩, inLeftover⟩, inPlain⟩ := absent
        let element : Repetition := ⟨opener, inside, inner⟩
        have comesTo : ComesTo element.written (oneItem ++ inside.leftover) :=
          element.comesTo_oneItem.trans
            ((ComesTo.refl oneItem).append inList (insideHypothesis.1 inLeftover inner))
        have further : '<' ∉ oneItem ++ inside.leftover := by
          rw [List.mem_append, not_or]
          exact ⟨inList, inLeftover⟩
        have whole := (ComesTo.refl letters).append inLetters
          (comesTo.append further (behindHypothesis.2 inPlain))
        simpa only [element, Repetition.written, written, plain, List.append_assoc] using whole

/-- A content without other markup is idle exactly if it stands in the normal form as blanks. -/
theorem isIdle_iff
    {content : Content}
    (absent : '<' ∉ content.plain) : content.IsIdle ↔ allBlank content.plain = true := by
  cases content with
  | text letters free =>
      rw [plain] at absent ⊢
      exact ⟨fun idle => idle.allBlank_of_notMem absent, Template.IsIdle.of_allBlank⟩
  | nest letters free opener single inside inner behind =>
      rw [IsIdle, plain, false_iff]
      intro blank
      have inList : '1' ∈ letters ++ oneItem ++ inside.leftover ++ behind.plain := by
        simp [oneItem]
      exact absurd (List.all_eq_true.mp blank _ inList) (by decide)

/-- Where no other markup is left, the closing tags come together exactly if blanks are left. -/
theorem isTidy_iff
    {content : Content}
    (absent : '<' ∉ content.leftover) : content.IsTidy ↔ allBlank content.leftover = true := by
  induction content with
  | text letters free => simp [IsTidy, leftover, allBlank]
  | nest letters free opener single inside inner behind insideHypothesis _ =>
      have space : allBlank [' '] = true := rfl
      simp only [leftover, List.mem_append, not_or] at absent
      rw [IsTidy, insideHypothesis absent.1.1, isIdle_iff absent.1.2, leftover]
      simp only [allBlank, List.all_append, Bool.and_eq_true] at space ⊢
      simp only [space, and_true]

/-- Where the closing tags come together, all that stands behind the first of them is void. -/
theorem isVoid_tail
    {content : Content}
    (tidy : content.IsTidy)
    (closer : Closer) : IsVoid (content.tail closer) := by
  induction content generalizing closer with
  | text letters free => exact .of_allBlank rfl
  | nest letters free opener single inside inner behind insideHypothesis _ =>
      obtain ⟨insideTidy, behindIdle⟩ := tidy
      have isVoidBehind : IsVoid behind.written := by
        cases behind with
        | text letters free => exact Template.IsIdle.isVoid behindIdle
        | nest => cases behindIdle
      exact ((insideHypothesis insideTidy inner).append isVoidBehind).append
        (.closing closer.toClosingTag)

/-- What is left separates the words before it from those behind it. -/
theorem words_leftover_append
    (content : Content)
    (rest : List Char) : words (content.leftover ++ rest) = words content.leftover ++ words rest := by
  cases content with
  | text letters free => rw [leftover]; rfl
  | nest letters free opener single inside inner behind =>
      rw [leftover, List.append_assoc _ [' '], List.singleton_append, words_append_cons _ rfl,
        words_append_cons _ rfl, words, List.append_nil]

end Content

namespace Repetition

/-- What is left of a repetition behind the list that stands for it. -/
def leftover (element : Repetition) : List Char :=
  element.content.leftover

/-- The closing tags of the repetition come together. -/
def IsTidy (element : Repetition) : Prop :=
  element.content.IsTidy

end Repetition

section Element

variable
  {before after : List Char}

/-- What stands behind the list on a line is told from the line by its words. -/
theorem collapse_oneItem_iff
    (before text other : List Char) :
    collapse (before ++ oneItem ++ text) = collapse (before ++ oneItem ++ other) ↔
      words text = words other := by
  have behindList (rest : List Char) :
      words (before ++ oneItem ++ rest) = words (before ++ " (1)".toList) ++ words rest := by
    have regrouped : before ++ oneItem ++ rest = before ++ " (1)".toList ++ ' ' :: rest := by
      simp [oneItem]
    rw [regrouped, words_append_cons _ rfl]
  rw [collapse_eq_collapse_iff, behindList, behindList, List.append_cancel_left_eq]

/-- The normal form of a repetition is the list and the normal form of what stands behind the first
closing tag. -/
theorem strip_element
    (bareBefore : IsBare before)
    (element : Repetition)
    (after : List Char) :
    strip (before ++ element.written ++ after) =
      collapse (before ++ oneItem ++ strip (element.tail ++ after)) := by
  have space : (before ++ oneItem).getLast? = some ' ' := by simp [oneItem]
  have replaced := element.comesTo_oneItem before after (bareBefore.notMem (by decide))
  have regrouped : before ++ (oneItem ++ element.tail ++ after) =
      before ++ oneItem ++ (element.tail ++ after) := by
    simp only [List.append_assoc]
  rw [List.append_assoc, replaced, regrouped,
    strip_append (IsBare.append_iff.mpr ⟨bareBefore, IsBare.oneItem⟩) space]

/-- The normal form of what stands behind the first closing tag is what is left of the repetition,
if no markup is left. -/
theorem strip_tail
    {element : Repetition}
    (bareLeftover : IsBare element.leftover)
    (bareAfter : IsBare after) :
    strip (element.tail ++ after) = collapse (element.leftover ++ after) := by
  have comesTo := element.content.comesTo_leftover_and_plain.1 (bareLeftover.notMem (by decide))
    element.closer
  have replaced := comesTo [] after List.not_mem_nil
  rw [List.nil_append, List.nil_append] at replaced
  rw [Repetition.tail, replaced]
  exact strip_of_isBare (IsBare.append_iff.mpr ⟨bareLeftover, bareAfter⟩)

/-- Between texts without markup, the normal form of a repetition is a list of one item and the
normal form of what stands behind its first closing tag.  So the list is all there is of the
repetition exactly if nothing comes of the rest, as where its closing tags come together; and where
the rest holds no markup but repetitions and their tags, what is left of it is known, and the list is
alone only where the closing tags come together. -/
theorem text_normalize_repetition
    (bareBefore : IsBare before)
    (bareAfter : IsBare after)
    (element : Repetition) :
    ((∀ recognize ∈ openingSteps, Misses recognize (before ++ element.written ++ after)) →
      opened (before ++ element.written ++ after) = before ++ element.written ++ after) ∧
    ∀ raw, opened raw = before ++ element.written ++ after →
      (normalize raw).text = collapse (before ++ oneItem ++ strip (element.tail ++ after)) ∧
      ((normalize raw).text = collapse (before ++ oneItem ++ after) ↔
        strip (element.tail ++ after) = collapse after) ∧
      (element.IsTidy → (normalize raw).text = collapse (before ++ oneItem ++ after)) ∧
      (IsBare element.leftover →
        (normalize raw).text = collapse (before ++ oneItem ++ element.leftover ++ after) ∧
        ((normalize raw).text = collapse (before ++ oneItem ++ after) ↔ element.IsTidy)) := by
  refine ⟨opened_eq_self, fun raw isOpened => ?_⟩
  have whole : (normalize raw).text =
      collapse (before ++ oneItem ++ strip (element.tail ++ after)) := by
    rw [text_normalize, isOpened, strip_element bareBefore]
  have onlyList : (normalize raw).text = collapse (before ++ oneItem ++ after) ↔
      strip (element.tail ++ after) = collapse after := by
    have collapsed : collapse (strip (element.tail ++ after)) = strip (element.tail ++ after) :=
      collapse_collapse _
    rw [whole, collapse_oneItem_iff, ← collapse_eq_collapse_iff, collapsed]
  have tidy (bareLeftover : IsBare element.leftover) :
      (normalize raw).text = collapse (before ++ oneItem ++ after) ↔ element.IsTidy := by
    rw [onlyList, strip_tail bareLeftover bareAfter, collapse_eq_collapse_iff, Repetition.leftover,
      Content.words_leftover_append, List.append_left_eq_self, words_eq_nil_iff,
      ← Content.isTidy_iff (bareLeftover.notMem (by decide)), Repetition.IsTidy]
  refine ⟨whole, onlyList, fun isTidy => ?_, fun bareLeftover => ⟨?_, tidy bareLeftover⟩⟩
  · exact onlyList.mpr ((Content.isVoid_tail isTidy element.closer).strip_append_eq bareAfter)
  · rw [whole, strip_tail bareLeftover bareAfter, List.append_assoc _ element.leftover,
      collapse_oneItem_iff, words_collapse]

end Element

/-- Text in which no `</` stands before the first letter of the name holds no closing tag of a
repetition. -/
theorem not_holdsCloser
    {text : List Char}
    (absent : ¬ ['<', '/', 'F'] <:+: text.map fold) : ¬ HoldsCloser text := by
  rintro ⟨closer, inside⟩
  apply absent
  have start : ['<', '/', 'F'] <+: closer.written.map fold := by
    refine ⟨"OREACH".toList ++ (closer.gap ++ ['>']).map fold, ?_⟩
    have marks : fold '<' = '<' ∧ fold '/' = '/' := by decide
    have name : "FOREACH".toList = 'F' :: "OREACH".toList := by decide
    simp only [ClosingTag.written, ClosingTag.inside, List.map_append, List.map_cons, closer.same,
      marks, name, List.cons_append, List.nil_append, List.append_assoc]
  exact start.isInfix.trans (inside.map fold)

/-- The shortest closing tag of a repetition. -/
def shortCloser : Closer :=
  .ofName "foreach".toList [] (by decide) (by simp)

/-- A repetition of rows, each with a repetition of values between two texts. -/
def rows
    (opening closing : List Char)
    (noneOpening : ¬ HoldsCloser opening)
    (noneClosing : ¬ HoldsCloser closing) : Repetition where
  opener := ⟨"foreach".toList, " x=\"r\"".toList, by decide, by decide, by decide⟩
  content :=
    .nest opening noneOpening
      ⟨"foreach".toList, " y=\"v\"".toList, by decide, by decide, by decide⟩
      (not_holdsCloser (by decide +kernel))
      (.text "1".toList (not_holdsCloser (by decide)))
      shortCloser
      (.text closing noneClosing)
  closer := shortCloser

/-- Rows whose values stand under a condition: the closing tags come together. -/
def guardedRows : Repetition :=
  rows "\n<if test=\"r\">".toList " </if>\n".toList (not_holdsCloser (by decide +kernel))
    (not_holdsCloser (by decide +kernel))

/-- The closing tag of the condition. -/
def conditionEnd : ClosingTag where
  name := ['i', 'f']
  gap := []
  alpha := ⟨'i', ['f'], rfl, rfl⟩
  letters := List.all_eq_true.mp (by decide)
  blank := by simp

/-- A template with such rows. -/
def guardedTemplate : List Char :=
  "a IN <foreach x=\"r\">\n<if test=\"r\"><foreach y=\"v\">#\x7bv\x7d</foreach> </if>\n</foreach> ;".toList

/-- The rows are a list. -/
theorem text_normalize_guardedTemplate :
    IsBare "a IN ".toList ∧ IsBare " ;".toList ∧
      opened guardedTemplate = "a IN ".toList ++ guardedRows.written ++ " ;".toList ∧
      guardedRows.IsTidy ∧ (normalize guardedTemplate).text = "a IN (1) ;".toList := by
  have bareBefore : IsBare "a IN ".toList := by simp [IsBare, markupCharacters]
  have bareAfter : IsBare " ;".toList := by simp [IsBare, markupCharacters]
  have isOpened : opened guardedTemplate =
      "a IN ".toList ++ guardedRows.written ++ " ;".toList := by decide +kernel
  have isTidy : guardedRows.IsTidy := by
    have closing : " </if>\n".toList = ' ' :: (conditionEnd.written ++ ['\n']) := by decide
    refine ⟨trivial, ?_⟩
    change IsIdle " </if>\n".toList
    rw [closing]
    exact .blank rfl (.closing conditionEnd (.blank rfl .nil))
  have line : collapse ("a IN ".toList ++ oneItem ++ " ;".toList) = "a IN (1) ;".toList := by
    decide
  obtain ⟨-, -, list, -⟩ := (text_normalize_repetition bareBefore bareAfter guardedRows).2 _ isOpened
  exact ⟨bareBefore, bareAfter, isOpened, isTidy, (list isTidy).trans line⟩

/-- Rows in brackets. -/
def bracketedRows : Repetition :=
  rows "(".toList ")".toList (not_holdsCloser (by decide)) (not_holdsCloser (by decide))

/-- Rows in brackets are a list with a bracket behind it. -/
theorem bracket_left_of_rows :
    "a IN <foreach x=\"r\">(<foreach y=\"v\">1</foreach>)</foreach>".toList =
        "a IN ".toList ++ bracketedRows.written ∧
      opened "a IN <foreach x=\"r\">(<foreach y=\"v\">1</foreach>)</foreach>".toList =
        "a IN <foreach x=\"r\">(<foreach y=\"v\">1</foreach>)</foreach>".toList ∧
      (normalize "a IN <foreach x=\"r\">(<foreach y=\"v\">1</foreach>)</foreach>".toList).text =
        "a IN (1) )".toList ∧
      "a IN (1) )".toList ≠ collapse ("a IN ".toList ++ oneItem) := by
  decide +kernel

end Template
end TableReach
