import TableReach.Proofs.Template.Plain
import TableReach.Proofs.Template.Placeholder

/-!
# Protected sections

Opening a protected section escapes all that could be taken for markup in its body.  So no
later step finds anything in it, and reading the entities takes the escapes back: the body
stands in the normal form as it was written.
-/

namespace TableReach
namespace Text

/-- A text without a section end is split at the one behind it. -/
theorem splitAtMark?_sectionEnd
    {body : List Char}
    (whole : ¬ "]]>".toList <:+: body)
    (rest : List Char) :
    splitAtMark? "]]>".toList (body ++ "]]>".toList ++ rest) = some (body, rest) := by
  induction body with
  | nil => rfl
  | cons character body inductionHypothesis =>
      have others : ¬ "]]>".toList <:+: body :=
        fun inside => whole (inside.trans (List.suffix_cons _ _).isInfix)
      have notHere :
          afterExact? "]]>".toList (character :: (body ++ "]]>".toList ++ rest)) = none := by
        rw [afterExact?_eq_none_iff]
        -- The end of a section ends with its only `>`, so it cannot start in the body and end in
        -- the mark behind it.
        rintro ⟨remaining, same⟩
        rcases body with _ | ⟨second, _ | ⟨third, body⟩⟩
        · cases same
        · cases same
        · cases same
          exact whole ⟨[], body, rfl⟩
      rw [List.cons_append, List.cons_append, splitAtMark?, notHere, inductionHypothesis others]
      rfl

end Text

namespace Template

open Text

/-- The entity that stands for a character, if there is one. -/
def entityOf (character : Char) : List Char :=
  ((entities.find? fun entity => entity.2 == character).map fun entity =>
    entity.1.toList).getD [character]

/-- A character as it is written where some characters are written as entities. -/
def escape (escaped : List Char) (character : Char) : List Char :=
  if character ∈ escaped then entityOf character else [character]

theorem entityOf_of_mem_entities :
    ∀ entity ∈ entities, entityOf entity.2 = entity.1.toList := by
  decide

/-- An entity starts with the only ampersand in it. -/
theorem exists_of_mem_entities :
    ∀ entity ∈ entities, ∃ name, entity.1.toList = '&' :: name ∧ '&' ∉ name := by
  intro entity present
  have shape : entity.1.toList = '&' :: entity.1.toList.tail ∧ '&' ∉ entity.1.toList.tail := by
    revert entity
    decide
  exact ⟨_, shape⟩

theorem eq_of_prefix_of_mem_entities :
    ∀ entity ∈ entities, ∀ other ∈ entities,
      entity.1.toList <+: other.1.toList → entity = other := by
  decide

/-- No entity but the one itself is read. -/
theorem replaceExact_entity
    {entity other : String × Char}
    (known : entity ∈ entities)
    (otherKnown : other ∈ entities)
    (different : entity ≠ other)
    (replacement rest : List Char) :
    replaceExact entity.1.toList replacement (other.1.toList ++ rest) =
      other.1.toList ++ replaceExact entity.1.toList replacement rest := by
  have notHere : afterExact? entity.1.toList (other.1.toList ++ rest) = none := by
    rw [afterExact?_eq_none_iff]
    intro starts
    rcases List.prefix_or_prefix_of_prefix starts (List.prefix_append _ _) with shorter | longer
    · exact different (eq_of_prefix_of_mem_entities _ known _ otherKnown shorter)
    · exact different (eq_of_prefix_of_mem_entities _ otherKnown _ known longer).symm
  obtain ⟨entityName, entityWritten, _⟩ := exists_of_mem_entities entity known
  obtain ⟨name, written, noMark⟩ := exists_of_mem_entities other otherKnown
  rw [written, List.cons_append] at notHere ⊢
  rw [replaceExact_cons notHere, entityWritten, replaceExact_append_of_notMem noMark,
    List.cons_append]

/-- Reading an entity takes its escapes back, and no others, as long as ampersands are escaped. -/
theorem replaceExact_flatMap_escape
    {entity : String × Char}
    {escaped : List Char}
    (known : entity ∈ entities)
    (escapedKnown : escaped ⊆ entities.map Prod.snd)
    (ampersand : '&' ∈ escaped)
    (text : List Char) :
    replaceExact entity.1.toList [entity.2] (text.flatMap (escape escaped)) =
      text.flatMap (escape (escaped.filter (· ≠ entity.2))) := by
  induction text with
  | nil => rfl
  | cons character text inductionHypothesis =>
      rw [List.flatMap_cons, List.flatMap_cons, ← inductionHypothesis]
      obtain ⟨name, written, _⟩ := exists_of_mem_entities entity known
      by_cases present : character ∈ escaped
      · obtain ⟨other, otherKnown, rfl⟩ := List.mem_map.mp (escapedKnown present)
        rw [escape, if_pos present, entityOf_of_mem_entities other otherKnown]
        by_cases same : entity = other
        · have left : other.2 ∉ escaped.filter (· ≠ entity.2) := by simp [same]
          rw [escape, if_neg left, same]
          apply replaceExact_append
          rw [← same, written]
          exact List.cons_ne_nil _ _
        · have differs : other.2 ≠ entity.2 := by
            intro equal
            apply same
            have unique : ∀ entity ∈ entities, ∀ other ∈ entities,
                other.2 = entity.2 → entity = other := by decide
            exact unique entity known other otherKnown equal
          have still : other.2 ∈ escaped.filter (· ≠ entity.2) := by simp [present, differs]
          rw [escape, if_pos still, entityOf_of_mem_entities other otherKnown]
          exact replaceExact_entity known otherKnown same _ _
      · have absent : character ∉ escaped.filter (· ≠ entity.2) :=
          fun still => present (List.mem_filter.mp still).1
        have noMark : '&' ∉ [character] := by
          rw [List.mem_singleton]
          rintro rfl
          exact present ampersand
        rw [escape, if_neg present, escape, if_neg absent, written]
        exact replaceExact_append_of_notMem noMark _

/-- The characters that are escaped in protected sections. -/
def markupCharacters : List Char :=
  ['<', '>', '&']

/-- No markup is in the entities that stand for markup. -/
theorem entityOf_of_mem_markupCharacters
    {character : Char}
    (escaped : character ∈ markupCharacters) :
    entityOf character ≠ [] ∧ (∀ letter ∈ entityOf character, isCalm letter = true) ∧
      '<' ∉ entityOf character ∧ '>' ∉ entityOf character := by
  simp only [markupCharacters, List.mem_cons, List.not_mem_nil, or_false] at escaped
  rcases escaped with rfl | rfl | rfl
  · exact ⟨by decide, List.all_eq_true.mp rfl, by decide, by decide⟩
  · exact ⟨by decide, List.all_eq_true.mp rfl, by decide, by decide⟩
  · exact ⟨by decide, List.all_eq_true.mp rfl, by decide, by decide⟩

/-- Reading the entities takes all escapes back. -/
theorem readEntities_flatMap_escape
    (text : List Char) : readEntities (text.flatMap (escape markupCharacters)) = text := by
  have known : ∀ entity ∈ entities, entity ∈ entities := fun _ present => present
  simp only [entities, List.forall_mem_cons, List.not_mem_nil, false_implies, forall_const] at known
  obtain ⟨less, greater, quote, apostrophe, ampersand, _⟩ := known
  simp only [readEntities, entities, List.foldl_cons, List.foldl_nil]
  rw [replaceExact_flatMap_escape less (by decide) (by decide),
    replaceExact_flatMap_escape greater (by decide) (by decide),
    replaceExact_flatMap_escape quote (by decide) (by decide),
    replaceExact_flatMap_escape apostrophe (by decide) (by decide),
    replaceExact_flatMap_escape ampersand (by decide) (by decide)]
  exact List.flatMap_singleton' text

/-- An escaped character closes no placeholder. -/
theorem shelters_flatMap_escape
    (text : List Char) : Shelters (text.flatMap (escape markupCharacters)) text := by
  induction text with
  | nil => exact Shelters.refl []
  | cons character text inductionHypothesis =>
      have here : Shelters (escape markupCharacters character) [character] := by
        by_cases escaped : character ∈ markupCharacters
        · obtain ⟨something, calm, _⟩ := entityOf_of_mem_markupCharacters escaped
          rw [escape, if_pos escaped]
          exact Shelters.of_isCalm something calm _
        · rw [escape, if_neg escaped]
          exact Shelters.refl [character]
      exact here.append inductionHypothesis

/-- Where tags are escaped no character opens or closes one. -/
theorem notMem_flatMap_escape
    {character : Char}
    (text : List Char)
    (tag : character = '<' ∨ character = '>') :
    character ∉ text.flatMap (escape markupCharacters) := by
  rw [List.mem_flatMap]
  rintro ⟨other, _, present⟩
  by_cases escaped : other ∈ markupCharacters
  · obtain ⟨_, _, noStart, noEnd⟩ := entityOf_of_mem_markupCharacters escaped
    rw [escape, if_pos escaped] at present
    rcases tag with rfl | rfl
    · exact noStart present
    · exact noEnd present
  · rw [escape, if_neg escaped, List.mem_singleton] at present
    subst present
    rcases tag with rfl | rfl
    · exact escaped (by decide)
    · exact escaped (by decide)

theorem bind_afterExact?_of_head?_ne
    {first : Char}
    {mark text : List Char}
    (different : text.head? ≠ some first)
    (next : List Char → Option α) : (afterExact? (first :: mark) text).bind next = none := by
  rw [Option.bind_eq_none_iff]
  intro rest found
  rw [afterExact?_eq_some_iff.mp found] at different
  exact absurd rfl different

/-- No tag, comment or mark of a section is found in a text without `<` and `>`. -/
theorem recognize_of_notMem
    {recognize : Recognizer (List Char)}
    {text : List Char}
    (before : Option Char)
    (isMarkup : recognize ∈ [comment, keySelection, repetition, keywordTag "WHERE".toList,
      keywordTag "SET".toList, trimTag, anyTag, strayMark])
    (noStart : '<' ∉ text)
    (noEnd : '>' ∉ text) : recognize before text = none := by
  simp only [List.mem_cons, List.not_mem_nil, or_false] at isMarkup
  have different : text.head? ≠ some '<' := fun starts => noStart (List.mem_of_head? starts)
  have noTagName (name : List Char) : afterTagName? name text = none :=
    bind_afterExact?_of_head?_ne different _
  rcases isMarkup with rfl | rfl | rfl | rfl | rfl | rfl | rfl | rfl
  · exact bind_afterExact?_of_head?_ne different _
  · simp [keySelection, afterElement?, noTagName]
  · simp [repetition, afterElement?, noTagName]
  · exact bind_afterExact?_of_head?_ne different _
  · exact bind_afterExact?_of_head?_ne different _
  · simp [trimTag, noTagName]
  · exact bind_afterExact?_of_head?_ne different _
  · have noOpening : afterExact? "<![CDATA[".toList text = none := by
      rw [afterExact?_eq_none_iff]
      exact fun starts => noStart (starts.subset (by decide))
    have noClosing : afterExact? "]]>".toList text = none := by
      rw [afterExact?_eq_none_iff]
      exact fun starts => noEnd (starts.subset (by decide))
    rw [strayMark, noOpening, noClosing]
    rfl

/-- A part of a template without elements: text without markup characters, or a protected section
up to its first end. -/
inductive Segment where
  /-- Text outside the sections. -/
  | plain
      (text : List Char)
      (unmarked : ∀ character ∈ text, character ∉ markupCharacters)
  /-- A protected section and its body. -/
  | shielded
      (body : List Char)
      (whole : ¬ "]]>".toList <:+: body)

namespace Segment

/-- The segment as it is written in a template. -/
def written : Segment → List Char
  | plain text _ => text
  | shielded body _ => "<![CDATA[".toList ++ body ++ "]]>".toList

/-- What the segment stands for. -/
def content : Segment → List Char
  | plain text _ => text
  | shielded body _ => body

end Segment

/-- The body of a section is escaped character by character. -/
theorem protectedSection_written
    {body : List Char}
    (before : Option Char)
    (whole : ¬ "]]>".toList <:+: body)
    (rest : List Char) :
    protectedSection before ("<![CDATA[".toList ++ body ++ "]]>".toList ++ rest) =
      some (body.flatMap (escape markupCharacters), rest) := by
  have opened : afterExact? "<![CDATA[".toList
      ("<![CDATA[".toList ++ body ++ "]]>".toList ++ rest) =
        some (body ++ "]]>".toList ++ rest) := by
    rw [afterExact?_eq_some_iff]
    simp only [List.append_assoc]
  have escapes (character : Char) :
      ((if character = '&' then "&amp;".toList else [character]).flatMap fun other =>
        (if other = '<' then "&lt;".toList else [other]).flatMap fun other =>
          if other = '>' then "&gt;".toList else [other]) = escape markupCharacters character := by
    by_cases escaped : character ∈ markupCharacters
    · simp only [markupCharacters, List.mem_cons, List.not_mem_nil, or_false] at escaped
      rcases escaped with rfl | rfl | rfl
      · decide
      · decide
      · decide
    · have kept := escaped
      simp only [markupCharacters, List.mem_cons, List.not_mem_nil, or_false, not_or] at kept
      rw [if_neg kept.2.2, List.flatMap_singleton, if_neg kept.1, List.flatMap_singleton,
        if_neg kept.2.1, escape, if_neg escaped]
  rw [protectedSection, opened, Option.bind_eq_bind, Option.bind_some,
    splitAtMark?_sectionEnd whole, Option.bind_eq_bind, Option.bind_some]
  dsimp only
  rw [replaceExact_singleton, replaceExact_singleton, replaceExact_singleton, List.flatMap_assoc,
    List.flatMap_assoc, List.flatMap_congr fun character _ => escapes character]

/-- Opening the sections of a template escapes its content. -/
theorem replaceAll_protectedSection
    (segments : List Segment) :
    replaceAll protectedSection (segments.flatMap Segment.written) =
      (segments.flatMap Segment.content).flatMap (escape markupCharacters) := by
  induction segments with
  | nil => rfl
  | cons segment segments inductionHypothesis =>
      rw [List.flatMap_cons, List.flatMap_cons, List.flatMap_append, ← inductionHypothesis]
      cases segment with
      | plain text unmarked =>
          have kept : text.flatMap (escape markupCharacters) = text := by
            have single : ∀ character ∈ text, escape markupCharacters character = [character] :=
              fun character present => if_neg (unmarked character present)
            rw [List.flatMap_congr single]
            exact List.flatMap_singleton' text
          rw [Segment.content, kept]
          apply replaceAll_append_of_missed
          intro character present rest
          refine bind_afterExact?_of_head?_ne ?_ _
          rintro ⟨⟩
          exact unmarked _ present (by decide)
      | shielded body whole =>
          have something : "<![CDATA[".toList ++ body ++ "]]>".toList ≠ [] := by simp
          have found := protectedSection_written none whole (segments.flatMap Segment.written)
          exact replaceAll_append something found

/-- The normal form of a template without elements is its content on one line, where the content
holds no placeholder: the bodies of the protected sections stay as they are written. -/
theorem normalize_segments
    (segments : List Segment)
    (unheld : ¬ HoldsPlaceholder (segments.flatMap Segment.content)) :
    normalize (segments.flatMap Segment.written) =
      { text := collapse (segments.flatMap Segment.content), placeholders := 0, tags := 0 } := by
  have opened := replaceAll_protectedSection segments
  generalize segments.flatMap Segment.content = content at unheld opened
  have noPlaceholder : Misses placeholder (content.flatMap (escape markupCharacters)) := by
    apply misses_placeholder
    rw [← Opening.closes_shut_iff] at unheld ⊢
    exact fun closed => unheld ((shelters_flatMap_escape content _ _ (.refl _)).1 closed)
  have misses (recognize : Recognizer (List Char))
      (isMarkup : recognize ∈ [comment, keySelection, repetition, keywordTag "WHERE".toList,
        keywordTag "SET".toList, trimTag, anyTag, strayMark]) :
      Misses recognize (content.flatMap (escape markupCharacters)) := by
    intro before rest suffix
    apply recognize_of_notMem before isMarkup
    · exact fun present => notMem_flatMap_escape content (Or.inl rfl) (suffix.subset present)
    · exact fun present => notMem_flatMap_escape content (Or.inr rfl) (suffix.subset present)
  have stays := fun recognize isMarkup => (misses recognize isMarkup).replaceAll_eq
  have nothing := fun recognize isMarkup => (misses recognize isMarkup).findAll_eq
  simp only [List.mem_cons, List.not_mem_nil, or_false, forall_eq_or_imp, forall_eq] at stays nothing
  simp only [normalize, Normal.replace, Normal.replacePlaceholders, Normal.replaceTags, opened,
    noPlaceholder.replaceAll_eq, noPlaceholder.findAll_eq, stays, nothing,
    readEntities_flatMap_escape, List.length_nil]

/-- A section with a tag, an escaped entity and the start of a section in its body. -/
def sectionWithMarkup : List Segment :=
  [.plain "a".toList (by simp [markupCharacters]), .shielded " <b> &amp;lt; <![CDATA[ ]]".toList (by decide +kernel),
    .plain "\nc".toList (by simp [markupCharacters])]

/-- Everything in the section stays. -/
theorem normalize_sectionWithMarkup :
    ¬ HoldsPlaceholder (sectionWithMarkup.flatMap Segment.content) ∧
      normalize "a<![CDATA[ <b> &amp;lt; <![CDATA[ ]]]]>\nc".toList =
        { text := "a <b> &amp;lt; <![CDATA[ ]] c".toList, placeholders := 0, tags := 0 } := by
  have unheld : ¬ HoldsPlaceholder (sectionWithMarkup.flatMap Segment.content) := by
    rw [← Opening.closes_shut_iff]
    decide +kernel
  have written : sectionWithMarkup.flatMap Segment.written =
      "a<![CDATA[ <b> &amp;lt; <![CDATA[ ]]]]>\nc".toList := by decide +kernel
  have collapsed : collapse (sectionWithMarkup.flatMap Segment.content) =
      "a <b> &amp;lt; <![CDATA[ ]] c".toList := by decide +kernel
  have normal := normalize_segments sectionWithMarkup unheld
  rw [written, collapsed] at normal
  exact ⟨unheld, normal⟩

end Template
end TableReach
