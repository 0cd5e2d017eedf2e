import TableReach.Template.Prepared
import TableReach.Proofs.Text.Blank
import TableReach.Proofs.Text.Search
import Mathlib.Data.List.TakeWhile

/-!
# Texts without markup

Nothing of a text without template markup is taken for markup: its normal form is
the text on one line, and no placeholder and no tag is counted.
-/

namespace TableReach
namespace Template

open Text

/-- A character that makes a `<` before it the start of markup. -/
def startsMarkup (character : Char) : Bool :=
  character.isAlpha || character == '/' || character == '!'

/-- Somewhere in the text markup starts. -/
def opensMarkup : List Char → Bool
  | [] => false
  | character :: rest =>
      (character == '<' && (rest.head?.map startsMarkup).getD false) || opensMarkup rest

/-- The text holds no template markup. -/
def isPlain (text : List Char) : Bool :=
  !text.contains '&' && !contains text "#\x7b".toList && !contains text "$\x7b".toList &&
    !contains text "]]>".toList && !opensMarkup text

/-- Nothing in the text is taken for template markup.  The long s is equal to an `s` when case is
ignored, so it can start the name of a tag. -/
def isUnmarked (text : List Char) : Bool :=
  isPlain text && !contains text "<ſ".toList

/-- The end of a text without markup has none. -/
theorem opensMarkup_of_suffix
    {text rest : List Char}
    (suffix : rest <:+ text)
    (opens : opensMarkup rest = true) : opensMarkup text = true := by
  induction text with
  | nil =>
      rw [List.suffix_nil.mp suffix] at opens
      exact opens
  | cons character others inductionHypothesis =>
      rcases List.suffix_cons_iff.mp suffix with rfl | later
      · exact opens
      · rw [opensMarkup, inductionHypothesis later, Bool.or_true]

theorem isUnmarked_iff
    {text : List Char} :
    isUnmarked text = true ↔
      '&' ∉ text ∧ ¬ ['#', '\x7b'] <:+: text ∧ ¬ ['$', '\x7b'] <:+: text ∧
        ¬ [']', ']', '>'] <:+: text ∧ opensMarkup text = false ∧ ¬ ['<', 'ſ'] <:+: text := by
  simp only [isUnmarked, isPlain, Bool.and_eq_true, Bool.not_eq_true', ← Bool.not_eq_true,
    contains_iff, List.contains_iff_mem, and_assoc]
  rfl

/-- The end of a text without markup has none. -/
theorem isUnmarked_of_suffix
    {text rest : List Char}
    (suffix : rest <:+ text)
    (unmarked : isUnmarked text = true) : isUnmarked rest = true := by
  rw [isUnmarked_iff] at unmarked ⊢
  obtain ⟨noEntity, noNumber, noText, noSection, noTag, noLongTag⟩ := unmarked
  refine ⟨fun present => noEntity (suffix.subset present),
    fun inside => noNumber (inside.trans suffix.isInfix),
    fun inside => noText (inside.trans suffix.isInfix),
    fun inside => noSection (inside.trans suffix.isInfix), ?_,
    fun inside => noLongTag (inside.trans suffix.isInfix)⟩
  rw [← Bool.not_eq_true] at noTag ⊢
  exact fun opens => noTag (opensMarkup_of_suffix suffix opens)

theorem misses_of_isUnmarked
    {recognize : Recognizer α}
    {text : List Char}
    (fails : ∀ before rest, isUnmarked rest = true → recognize before rest = none)
    (unmarked : isUnmarked text = true) : Misses recognize text :=
  fun before rest suffix => fails before rest (isUnmarked_of_suffix suffix unmarked)

/-- No markup starts behind a `<` of a text without it. -/
theorem startsMarkup_of_isUnmarked
    {character : Char}
    {rest : List Char}
    (unmarked : isUnmarked ('<' :: character :: rest) = true) :
    startsMarkup character = false ∧ character ≠ 'ſ' := by
  obtain ⟨-, -, -, -, noTag, noLongTag⟩ := isUnmarked_iff.mp unmarked
  rw [opensMarkup, Bool.or_eq_false_iff] at noTag
  refine ⟨noTag.1, ?_⟩
  rintro rfl
  exact noLongTag ⟨[], rest, rfl⟩

/-- Only a letter, the long s or the Kelvin sign is a letter when case is ignored. -/
theorem startsMarkup_of_fold
    {character : Char}
    (letter : (fold character).isAlpha = true)
    (notKelvin : fold character ≠ 'K') : startsMarkup character = true ∨ character = 'ſ' := by
  unfold fold at letter notKelvin
  split at letter
  · next long => exact Or.inr (beq_iff_eq.mp long)
  · next notLong =>
      rw [if_neg notLong] at notKelvin
      split at letter
      · next kelvin =>
          rw [if_pos kelvin] at notKelvin
          exact absurd rfl notKelvin
      · have alphabetic : character.isAlpha = true := by
          unfold Char.toUpper at letter
          split at letter
          · next lower =>
              have isLower : character.isLower = true :=
                Bool.and_eq_true_iff.mpr ⟨decide_eq_true lower.1, decide_eq_true lower.2⟩
              exact Bool.or_eq_true_iff.mpr (Or.inr isLower)
          · exact letter
        exact Or.inl (by rw [startsMarkup, alphabetic]; rfl)

/-- No name of a tag stands behind a `<` of a text without markup. -/
theorem afterKeyword?_of_isUnmarked
    {name rest : List Char}
    (letter : (name.head?.map fun first => first.isAlpha && first != 'K') = some true)
    (unmarked : isUnmarked ('<' :: rest) = true) : afterKeyword? name rest = none := by
  cases name with
  | nil => cases letter
  | cons first others =>
      cases rest with
      | nil => rfl
      | cons character rest =>
          rw [afterKeyword?, if_neg]
          intro same
          rw [beq_iff_eq] at same
          rw [List.head?_cons, Option.map_some, Option.some_inj, Bool.and_eq_true, ← same,
            bne_iff_ne] at letter
          obtain ⟨noMarkup, notLong⟩ := startsMarkup_of_isUnmarked unmarked
          rcases startsMarkup_of_fold letter.1 letter.2 with opens | long
          · rw [noMarkup] at opens
            cases opens
          · exact notLong long

theorem bind_afterExact?_tag
    {text : List Char}
    {next : List Char → Option α}
    (fails : ∀ rest, text = '<' :: rest → next rest = none) :
    (afterExact? ['<'] text).bind next = none := by
  rw [Option.bind_eq_none_iff]
  intro rest found
  exact fails rest (afterExact?_eq_some_iff.mp found)

theorem afterTagName?_of_isUnmarked
    {name text : List Char}
    (letter : (name.head?.map fun first => first.isAlpha && first != 'K') = some true)
    (unmarked : isUnmarked text = true) : afterTagName? name text = none := by
  refine bind_afterExact?_tag ?_
  rintro rest rfl
  rw [afterKeyword?_of_isUnmarked letter unmarked]
  rfl

theorem afterExact?_of_isUnmarked
    {mark text : List Char}
    (unmarked : isUnmarked text = true) : afterExact? ('<' :: '!' :: mark) text = none := by
  rw [afterExact?_eq_none_iff]
  rintro ⟨rest, rfl⟩
  exact nomatch (startsMarkup_of_isUnmarked unmarked).1

/-- No recognizer of markup finds anything at the start of a text without markup. -/
theorem recognize_of_isUnmarked
    {recognize : Recognizer (List Char)}
    {text : List Char}
    (before : Option Char)
    (isMarkup : recognize ∈ [protectedSection, placeholder, comment, keySelection, repetition,
      keywordTag "WHERE".toList, keywordTag "SET".toList, trimTag, anyTag, strayMark])
    (unmarked : isUnmarked text = true) : recognize before text = none := by
  obtain ⟨-, noNumber, noText, noSection, -, -⟩ := isUnmarked_iff.mp unmarked
  simp only [List.mem_cons, List.not_mem_nil, or_false] at isMarkup
  rcases isMarkup with rfl | rfl | rfl | rfl | rfl | rfl | rfl | rfl | rfl | rfl
  · change (afterExact? "<![CDATA[".toList text).bind _ = none
    rw [show "<![CDATA[".toList = '<' :: '!' :: "[CDATA[".toList from rfl,
      afterExact?_of_isUnmarked unmarked]
    rfl
  · unfold placeholder
    split
    · next mark rest =>
        rw [if_neg]
        intro isMark
        rw [Bool.or_eq_true, beq_iff_eq, beq_iff_eq] at isMark
        rcases isMark with rfl | rfl
        · exact noNumber ⟨[], rest, rfl⟩
        · exact noText ⟨[], rest, rfl⟩
    · rfl
  · change (afterExact? "<!--".toList text).bind _ = none
    rw [show "<!--".toList = '<' :: '!' :: "--".toList from rfl, afterExact?_of_isUnmarked unmarked]
    rfl
  · change Option.map _ ((afterTagName? "SELECTKEY".toList text).bind _) = none
    rw [afterTagName?_of_isUnmarked rfl unmarked]
    rfl
  · change Option.map _ ((afterTagName? "FOREACH".toList text).bind _) = none
    rw [afterTagName?_of_isUnmarked rfl unmarked]
    rfl
  · refine bind_afterExact?_tag ?_
    rintro rest rfl
    rw [afterKeyword?_of_isUnmarked rfl unmarked]
    rfl
  · refine bind_afterExact?_tag ?_
    rintro rest rfl
    rw [afterKeyword?_of_isUnmarked rfl unmarked]
    rfl
  · change (afterTagName? "TRIM".toList text).bind _ = none
    rw [afterTagName?_of_isUnmarked rfl unmarked]
    rfl
  · refine bind_afterExact?_tag ?_
    rintro rest rfl
    cases rest with
    | nil => rfl
    | cons character rest =>
        have noMarkup := (startsMarkup_of_isUnmarked unmarked).1
        simp only [startsMarkup, Bool.or_eq_false_iff] at noMarkup
        obtain ⟨⟨noLetter, noSlash⟩, -⟩ := noMarkup
        simp [skipMark, noLetter, noSlash]
  · unfold strayMark
    rw [show "<![CDATA[".toList = '<' :: '!' :: "[CDATA[".toList from rfl,
      afterExact?_of_isUnmarked unmarked]
    have noEnd : afterExact? "]]>".toList text = none := by
      rw [afterExact?_eq_none_iff]
      exact fun starts => noSection starts.isInfix
    rw [noEnd]
    rfl

/-- Steps of which none changes the state leave it as it is. -/
theorem foldl_eq_self
    {step : β → α → β}
    {state : β}
    {items : List α}
    (stays : ∀ item ∈ items, step state item = state) : items.foldl step state = state := by
  induction items with
  | nil => rfl
  | cons item items inductionHypothesis =>
      rw [List.foldl_cons, stays item List.mem_cons_self]
      exact inductionHypothesis fun other present => stays other (List.mem_cons_of_mem _ present)

/-- No entity is read in a text without markup. -/
theorem readEntities_of_isUnmarked
    {text : List Char}
    (unmarked : isUnmarked text = true) : readEntities text = text := by
  have noEntity := (isUnmarked_iff.mp unmarked).1
  refine foldl_eq_self fun entity present => ?_
  have marked : entity.1.toList.head? = some '&' := by
    revert entity
    decide
  refine Misses.replaceAll_eq fun _ rest suffix => ?_
  rw [Option.map_eq_none_iff, afterExact?_eq_none_iff]
  intro starts
  have first : '&' ∈ entity.1.toList := List.mem_of_head? marked
  exact noEntity (suffix.subset (starts.subset first))

/-- The normal form of a text without markup is the text on one line. -/
theorem normalize_of_isUnmarked
    {text : List Char}
    (unmarked : isUnmarked text = true) :
    normalize text = { text := collapse text, placeholders := 0, tags := 0 } := by
  have misses (recognize : Recognizer (List Char))
      (isMarkup : recognize ∈ [protectedSection, placeholder, comment, keySelection, repetition,
        keywordTag "WHERE".toList, keywordTag "SET".toList, trimTag, anyTag, strayMark]) :
      replaceAll recognize text = text ∧ findAll recognize text = [] := by
    have nowhere := misses_of_isUnmarked
      (fun before _ unmarked => recognize_of_isUnmarked before isMarkup unmarked) unmarked
    exact ⟨nowhere.replaceAll_eq, nowhere.findAll_eq⟩
  simp only [List.mem_cons, List.not_mem_nil, or_false, forall_eq_or_imp, forall_eq] at misses
  simp only [normalize, Normal.replace, Normal.replacePlaceholders, Normal.replaceTags, misses,
    readEntities_of_isUnmarked unmarked, List.length_nil]

/-- A text that no rule changes needs no repair. -/
theorem repair_eq_self
    {text : List Char}
    (unrepaired : ∀ rule ∈ RepairRule.all, rule.mend? text = none) :
    repair text = { text := text, repairs := [] } := by
  have pass : Repaired.pass { text := text, repairs := [] } = { text := text, repairs := [] } := by
    refine foldl_eq_self fun rule present => ?_
    rw [Repaired.step, unrepaired rule present]
  have passes (count : Nat) :
      Repaired.passes count { text := text, repairs := [] } = { text := text, repairs := [] } := by
    induction count with
    | zero => rfl
    | succ count inductionHypothesis => rw [Repaired.passes, pass, inductionHypothesis]
  exact passes passLimit

/-- Markup starts at a `<`. -/
theorem mem_of_opensMarkup
    {text : List Char}
    (opens : opensMarkup text = true) : '<' ∈ text := by
  induction text with
  | nil => exact nomatch opens
  | cons character rest inductionHypothesis =>
      rw [opensMarkup, Bool.or_eq_true, Bool.and_eq_true, beq_iff_eq] at opens
      rcases opens with ⟨rfl, _⟩ | later
      · exact List.mem_cons_self
      · exact List.mem_cons_of_mem _ (inductionHypothesis later)

/-- A blank text holds no markup. -/
theorem isUnmarked_of_allBlank
    {text : List Char}
    (blank : allBlank text = true) : isUnmarked text = true := by
  have absent (character : Char) (letter : isBlank character = false) : character ∉ text := by
    intro present
    rw [List.all_eq_true.mp blank character present] at letter
    exact nomatch letter
  have noneInside (mark : Char) (others : List Char) (letter : isBlank mark = false) :
      ¬ (mark :: others) <:+: text :=
    fun inside => absent mark letter (inside.subset List.mem_cons_self)
  rw [isUnmarked_iff]
  refine ⟨absent '&' rfl, noneInside '#' _ rfl, noneInside '$' _ rfl, noneInside ']' _ rfl, ?_,
    noneInside '<' _ rfl⟩
  rw [← Bool.not_eq_true]
  exact fun opens => absent '<' rfl (mem_of_opensMarkup opens)

/-- A blank text has no statement shape. -/
theorem isStandIn_of_allBlank
    {text : List Char}
    (blank : allBlank text = true) : (prepare text).isStandIn = true := by
  have nothing : collapse text = [] := by
    rw [collapse_eq_line_trimLeft, trimLeft, List.dropWhile_eq_nil_iff.mpr
      (List.all_eq_true.mp blank)]
    rfl
  have unrepaired : repair [] = { text := [], repairs := [] } := repair_eq_self (by decide)
  simp only [prepare, normalize_of_isUnmarked (isUnmarked_of_allBlank blank), nothing, unrepaired]
  rfl

end Template
end TableReach
