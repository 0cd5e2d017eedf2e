import TableReach.Proofs.Sql.Lexer.Lexemes

/-!
# Reading a text and its line side by side

The lexer reads a text and the same text on one line in step: `Aligned` relates
the two states, a gap or a token of the text leads from aligned states to aligned
states, and so both texts have the same lexemes.
-/

namespace TableReach
namespace Sql
namespace Lexer

open Text

/-- Texts that are read later and their respaced forms; only the one read last may be trimmed. -/
inductive RespacedLater (dialect : Dialect) : List (List Char) → List (List Char) → Prop
  /-- No text. -/
  | nil : RespacedLater dialect [] []
  /-- A text before others. -/
  | cons
      {text respaced : List Char}
      {later laterRespaced : List (List Char)}
      (first : Respaced dialect later.isEmpty text respaced)
      (others : RespacedLater dialect later laterRespaced) :
      RespacedLater dialect (text :: later) (respaced :: laterRespaced)

/-- The states of the lexer in a text and in the respaced one belong together.  Behind a line
comment nothing is left of the respaced text.  A blank that vanished may have told the lexer
to forget the previous token; the next space or the end makes up for it. -/
structure Aligned
    (dialect : Dialect)
    (commented : Bool)
    (previous previousRespaced : Option Token)
    (later laterRespaced : List (List Char))
    (text respaced : List Char) : Prop where
  /-- The texts that follow. -/
  texts : RespacedLater dialect later laterRespaced
  /-- Where there was no line comment, what is left is respaced. -/
  related : commented = false → Respaced dialect later.isEmpty text respaced
  /-- Where there was one, nothing is left. -/
  silent : commented = true → respaced = [] ∧ previous = none
  /-- The previous tokens are the same where they matter. -/
  tokens : previousRespaced = previous ∨ respaced.head? = some ' ' ∨
    (respaced = [] ∧ laterRespaced = [])

/-- The steps that reading takes at most. -/
def effort (later : List (List Char)) (text : List Char) : Nat :=
  text.length + 1 + later.flatten.length + later.length

/-- Every part is left of an earlier one, and fewer steps remain. -/
def Shrinks
    (laterBefore : List (List Char))
    (before : List Char)
    (later : List (List Char))
    (text : List Char) : Prop :=
  (∀ part ∈ text :: later, ∃ whole ∈ before :: laterBefore, part ⊆ whole) ∧
    effort later text < effort laterBefore before

/-- A character that no part had is in no part that is left. -/
theorem Shrinks.notMem
    {laterBefore later : List (List Char)}
    {before text : List Char}
    {character : Char}
    (shrinks : Shrinks laterBefore before later text)
    (absent : ∀ part ∈ before :: laterBefore, character ∉ part) :
    ∀ part ∈ text :: later, character ∉ part := by
  intro part isPart present
  obtain ⟨whole, isWhole, inside⟩ := shrinks.1 part isPart
  exact absent whole isWhole (inside present)

/-- An end of the rest is shorter than the text. -/
theorem shrinks_of_suffix
    {rest behind : List Char}
    (character : Char)
    (later : List (List Char))
    (suffix : behind <:+ rest) : Shrinks later (character :: rest) later behind := by
  refine ⟨?_, ?_⟩
  · intro part isPart
    rcases List.mem_cons.mp isPart with rfl | isLater
    · exact ⟨_, List.mem_cons_self, List.Subset.trans suffix.subset (List.subset_cons_self _ _)⟩
    · exact ⟨part, List.mem_cons_of_mem _ isLater, List.Subset.refl _⟩
  · have bound := suffix.length_le
    rw [effort, effort, List.length_cons]
    omega

/-- A hint is longer than its content. -/
theorem shrinks_of_hint
    {dialect : Dialect}
    {character : Char}
    {rest content behind : List Char}
    (later : List (List Char))
    (isHint : lead dialect (character :: rest) = .hint content behind) :
    Shrinks later (character :: rest) (behind :: later) content := by
  obtain ⟨body, rfl, rfl, _, suffix, inside, bound⟩ := parts_of_lead_hint isHint
  have whole : body ⊆ '/' :: '*' :: body := fun _ present =>
    List.mem_cons_of_mem _ (List.mem_cons_of_mem _ present)
  refine ⟨?_, ?_⟩
  · intro part isPart
    rcases List.mem_cons.mp isPart with rfl | others
    · exact ⟨_, List.mem_cons_self, List.Subset.trans inside whole⟩
    · rcases List.mem_cons.mp others with rfl | isLater
      · exact ⟨_, List.mem_cons_self, List.Subset.trans suffix.subset whole⟩
      · exact ⟨part, List.mem_cons_of_mem _ isLater, List.Subset.refl _⟩
  · simp only [effort, List.length_cons, List.flatten_cons, List.length_append]
    omega

theorem shrinks_of_end
    (text : List Char)
    (later : List (List Char)) : Shrinks (text :: later) [] later text := by
  refine ⟨fun part isPart => ⟨part, List.mem_cons_of_mem _ isPart, List.Subset.refl _⟩, ?_⟩
  simp only [effort, List.length_nil, List.length_cons, List.flatten_cons, List.length_append]
  omega

theorem lexemesFrom?_nil
    (dialect : Dialect)
    (limit : Nat)
    (previous : Option Token) : lexemesFrom? dialect limit previous [] [] = some [] := by
  cases limit <;> rfl

/-- The lexemes of a text that is not at its end. -/
theorem lexemesFrom?_cons
    (dialect : Dialect)
    (limit : Nat)
    (previous : Option Token)
    (later : List (List Char))
    (character : Char)
    (rest : List Char) :
    lexemesFrom? dialect (limit + 1) previous later (character :: rest) =
      match lead dialect (character :: rest) with
      | .gap behind => lexemesFrom? dialect limit none later behind
      | .hint content behind => lexemesFrom? dialect limit previous (behind :: later) content
      | .openComment => none
      | .token =>
          match scanToken dialect previous character rest with
          | none => none
          | some (token, behind) =>
              (lexemesFrom? dialect limit (some token) later behind).map fun others =>
                { token := token, keyword := token.keyword, spaced := previous.isNone } ::
                  others := by
  cases later <;> rfl

/-- Whether the tokens of a text that is not at its end outlive the respacing. -/
theorem keepsTokensFrom_cons
    (dialect : Dialect)
    (limit : Nat)
    (commented : Bool)
    (previous : Option Token)
    (later : List (List Char))
    (character : Char)
    (rest : List Char) :
    keepsTokensFrom dialect (limit + 1) commented previous later (character :: rest) =
      match lead dialect (character :: rest) with
      | .gap behind =>
          (commented || !(dialect == .mysql && character == '-' && allBlank (rest.drop 1))) &&
            keepsTokensFrom dialect limit (commented || character == '-' || character == '#') none
              later behind
      | .hint content behind =>
          !commented && keepsTokensFrom dialect limit false previous (behind :: later) content
      | .openComment => false
      | .token =>
          match scanToken dialect previous character rest with
          | none => false
          | some (token, behind) =>
              let whole := consumed (character :: rest) behind
              !commented && collapse whole == whole &&
                keepsTokensFrom dialect limit false (some token) later behind := by
  cases later <;> rfl

namespace Aligned

variable
  {dialect : Dialect}
  {commented : Bool}
  {previous previousRespaced : Option Token}
  {later laterRespaced : List (List Char)}
  {character : Char}
  {rest respaced behind : List Char}

theorem skip
    (aligned : Aligned dialect true previous previousRespaced later laterRespaced
      (character :: rest) respaced) :
    Aligned dialect true none previousRespaced later laterRespaced behind respaced := by
  obtain ⟨nothing, forgotten⟩ := aligned.silent rfl
  refine ⟨aligned.texts, nofun, fun _ => ⟨nothing, rfl⟩, ?_⟩
  rw [← forgotten]
  exact aligned.tokens

theorem of_respaced
    (texts : RespacedLater dialect later laterRespaced)
    (related : Respaced dialect later.isEmpty rest respaced) :
    Aligned dialect false previous previous later laterRespaced rest respaced :=
  ⟨texts, fun _ => related, nofun, Or.inl rfl⟩

theorem of_comment
    (texts : RespacedLater dialect later laterRespaced) :
    Aligned dialect true none none later laterRespaced rest [] :=
  ⟨texts, nofun, fun _ => ⟨rfl, rfl⟩, Or.inl rfl⟩

/-- A blank is passed in both texts or vanishes from the respaced one. -/
theorem blank
    (divides : dialect.divides character = true)
    (aligned : Aligned dialect false previous previousRespaced later laterRespaced
      (character :: rest) respaced) :
    Aligned dialect false none previousRespaced later laterRespaced rest respaced ∨
      ∃ others, respaced = ' ' :: others ∧
        Aligned dialect false none none later laterRespaced rest others := by
  have nothingLater (last : later.isEmpty = true) : laterRespaced = [] := by
    obtain rfl := List.isEmpty_iff.mp last
    cases aligned.texts
    rfl
  have related := aligned.related rfl
  cases related with
  | letter notBlank =>
      rw [Dialect.isBlank_of_divides divides] at notBlank
      exact nomatch notBlank
  | space _ _ others => exact Or.inr ⟨_, rfl, of_respaced aligned.texts others⟩
  | run _ more others =>
      refine Or.inl ⟨aligned.texts, fun _ => others, nofun, Or.inr ?_⟩
      exact (others.head?_of_startsBlank more).imp_right fun ⟨nothing, last⟩ =>
        ⟨nothing, nothingLater last⟩
  | ending _ last =>
      exact Or.inl ⟨aligned.texts, fun _ => Respaced.nil, nofun,
        Or.inr (Or.inr ⟨rfl, nothingLater last⟩)⟩

/-- A gap of a text is one of the respaced text, or nothing is left of it there. -/
theorem gap
    (isGap : lead dialect (character :: rest) = .gap behind)
    (kept : commented = false →
      (dialect == .mysql && character == '-' && allBlank (rest.drop 1)) = false)
    (aligned : Aligned dialect commented previous previousRespaced later laterRespaced
      (character :: rest) respaced) :
    Aligned dialect (commented || character == '-' || character == '#') none previousRespaced
        later laterRespaced behind respaced ∨
      ∃ first others left, respaced = first :: others ∧
        lead dialect (first :: others) = .gap left ∧
        Aligned dialect (commented || character == '-' || character == '#') none none
          later laterRespaced behind left := by
  cases commented with
  | true => exact Or.inl aligned.skip
  | false =>
      have related := aligned.related rfl
      rcases lead_cases dialect character rest with ⟨body, rfl, rfl, equal⟩ |
        ⟨body, rfl, rfl, equal⟩ | ⟨rfl, equal⟩ | ⟨noBlock, noLine, noHash, equal⟩
      · rw [equal] at isGap
        obtain ⟨_, rfl, starRelated⟩ := related.exists_of_letter rfl
        obtain ⟨others, rfl, bodyRelated⟩ := starRelated.exists_of_letter rfl
        obtain ⟨left, isGapRespaced, leftRelated⟩ := blockLead_gap_respaced bodyRelated isGap
        exact Or.inr ⟨_, _, left, rfl, isGapRespaced, of_respaced aligned.texts leftRelated⟩
      · obtain ⟨_, rfl, dashRelated⟩ := related.exists_of_letter rfl
        obtain ⟨others, rfl, bodyRelated⟩ := dashRelated.exists_of_letter rfl
        refine Or.inr ⟨_, _, [], rfl, ?_, of_comment aligned.texts⟩
        rw [lead_dashes, bodyRelated.dropWhile_newline, if_pos]
        rw [equal] at isGap
        split at isGap
        · next starts =>
            rw [Bool.or_eq_true] at starts ⊢
            rcases starts with elsewhere | blank
            · exact Or.inl elsewhere
            · rcases bodyRelated.head?_of_startsBlank blank with space | ⟨rfl, _⟩
              · exact Or.inr (by rw [startsBlank, space]; rfl)
              · have vanished := kept rfl
                rw [List.drop_one, List.tail_cons, bodyRelated.allBlank_of_nil, beq_self_eq_true,
                  Bool.and_true, Bool.and_true] at vanished
                exact Or.inl (by rw [bne, vanished]; rfl)
        · cases isGap
      · obtain ⟨others, rfl, bodyRelated⟩ := related.exists_of_letter rfl
        refine Or.inr ⟨_, _, [], rfl, ?_, of_comment aligned.texts⟩
        rw [lead_hash, bodyRelated.dropWhile_newline, if_pos]
        rw [equal] at isGap
        split at isGap
        · assumption
        · cases isGap
      · rw [equal] at isGap
        split at isGap
        · next divides =>
            obtain rfl := Lead.gap.inj isGap
            have noMark := eq_false_of_isBlank
              (fun character => character == '-' || character == '#') (by decide)
              (Dialect.isBlank_of_divides divides)
            rw [Bool.false_or, noMark]
            rcases aligned.blank divides with vanished | ⟨others, equal, next⟩
            · exact Or.inl vanished
            · exact Or.inr
                ⟨' ', others, others, equal, lead_of_divides dialect.divides_space, next⟩
        · cases isGap

/-- A hint of a text is one of the respaced text. -/
theorem hint
    {content : List Char}
    (isHint : lead dialect (character :: rest) = .hint content behind)
    (aligned : Aligned dialect false previous previousRespaced later laterRespaced
      (character :: rest) respaced) :
    ∃ first others inside left, respaced = first :: others ∧
      lead dialect (first :: others) = .hint inside left ∧
      Aligned dialect false previous previousRespaced (behind :: later) (left :: laterRespaced)
        content inside := by
  obtain ⟨body, rfl, rfl, isHint, _⟩ := parts_of_lead_hint isHint
  obtain ⟨_, rfl, starRelated⟩ := (aligned.related rfl).exists_of_letter rfl
  obtain ⟨others, rfl, bodyRelated⟩ := starRelated.exists_of_letter rfl
  obtain ⟨inside, left, isHintRespaced, insideRelated, leftRelated⟩ :=
    blockLead_hint_respaced bodyRelated isHint
  refine ⟨_, _, inside, left, rfl, isHintRespaced, RespacedLater.cons leftRelated aligned.texts,
    fun _ => insideRelated, nofun, ?_⟩
  exact aligned.tokens.imp_right fun differs => by simp at differs

/-- A token of a text that is the same collapsed is one of the respaced text. -/
theorem token
    {found : Token}
    (isToken : lead dialect (character :: rest) = .token)
    (scanned : scanToken dialect previous character rest = some (found, behind))
    (noAmpersand : '&' ∉ character :: rest)
    (same : collapse (consumed (character :: rest) behind) = consumed (character :: rest) behind)
    (aligned : Aligned dialect false previous previousRespaced later laterRespaced
      (character :: rest) respaced) :
    ∃ others left, respaced = character :: others ∧ previousRespaced = previous ∧
      lead dialect (character :: others) = .token ∧
      scanToken dialect previous character others = some (found, left) ∧
      Aligned dialect false (some found) (some found) later laterRespaced behind left := by
  have undivided : dialect.divides character ≠ true := by
    intro divides
    rw [lead_of_divides divides] at isToken
    exact nomatch isToken
  have related := aligned.related rfl
  cases related with
  | letter notBlank others =>
      obtain ⟨start, rfl⟩ := leaves_scanToken previous character rest found behind scanned
      rw [← List.cons_append, consumed_append] at same
      obtain ⟨left, scannedRespaced, leftRelated⟩ :=
        followsLine_scanToken previous notBlank noAmpersand others found behind scanned
          (character :: start) rfl (line_of_collapse same)
      refine ⟨_, left, rfl, ?_, lead_respaced_of_token notBlank others isToken, scannedRespaced,
        of_respaced aligned.texts leftRelated⟩
      rcases aligned.tokens with equal | space | nothing
      · exact equal
      · obtain rfl := Option.some_inj.mp space
        exact nomatch notBlank
      · exact nomatch nothing.1
  | space divides => exact absurd divides undivided
  | run divides => exact absurd divides undivided
  | ending divides => exact absurd divides undivided

end Aligned

/-- A text and its respaced form have the same lexemes, for all limits that are large enough. -/
theorem lexemesFrom?_respaced
    {dialect : Dialect}
    {commented : Bool}
    {previous previousRespaced : Option Token}
    {later laterRespaced : List (List Char)}
    {text respaced : List Char}
    {limit limitRespaced : Nat}
    (keeps : keepsTokensFrom dialect limit commented previous later text = true)
    (noAmpersand : ∀ part ∈ text :: later, '&' ∉ part)
    (aligned : Aligned dialect commented previous previousRespaced later laterRespaced
      text respaced)
    (enough : effort laterRespaced respaced ≤ limitRespaced) :
    lexemesFrom? dialect limitRespaced previousRespaced laterRespaced respaced =
      lexemesFrom? dialect limit previous later text := by
  induction limit generalizing commented previous previousRespaced later laterRespaced text respaced
    limitRespaced with
  | zero => exact nomatch keeps
  | succ limit inductionHypothesis =>
      obtain ⟨limitRespaced, rfl⟩ : ∃ smaller, limitRespaced = smaller + 1 :=
        ⟨limitRespaced - 1, by rw [effort] at enough; omega⟩
      have goOn {nextCommented : Bool} {found foundRespaced : Option Token}
          {nextLater nextLaterRespaced : List (List Char)} {nextText nextRespaced : List Char}
          (shrinks : Shrinks later text nextLater nextText)
          (shrinksRespaced : Shrinks laterRespaced respaced nextLaterRespaced nextRespaced)
          (keeps : keepsTokensFrom dialect limit nextCommented found nextLater nextText = true)
          (aligned : Aligned dialect nextCommented found foundRespaced nextLater nextLaterRespaced
            nextText nextRespaced) :
          lexemesFrom? dialect limitRespaced foundRespaced nextLaterRespaced nextRespaced =
            lexemesFrom? dialect limit found nextLater nextText :=
        inductionHypothesis keeps (shrinks.notMem noAmpersand) aligned
          (Nat.le_of_lt_succ (Nat.lt_of_lt_of_le shrinksRespaced.2 enough))
      cases text with
      | nil =>
          obtain rfl : respaced = [] := by
            cases commented with
            | true => exact (aligned.silent rfl).1
            | false => exact (aligned.related rfl).eq_nil
          obtain ⟨texts, _, _, tokens⟩ := aligned
          cases texts with
          | nil => rfl
          | cons first others =>
              obtain rfl : previousRespaced = previous := by simpa using tokens
              exact goOn (shrinks_of_end _ _) (shrinks_of_end _ _) keeps
                (Aligned.of_respaced others first)
      | cons character rest =>
          rw [keepsTokensFrom_cons] at keeps
          rw [lexemesFrom?_cons dialect limit]
          cases found : lead dialect (character :: rest) with
          | openComment =>
              rw [found] at keeps
              exact nomatch keeps
          | gap behind =>
              rw [found, Bool.and_eq_true] at keeps
              have shrinks := shrinks_of_suffix character later (suffix_of_lead_gap found)
              have kept (open_ : commented = false) :
                  (dialect == .mysql && character == '-' && allBlank (rest.drop 1)) = false := by
                rw [← Bool.not_eq_true', ← Bool.false_or (!_), ← open_]
                exact keeps.1
              rcases aligned.gap found kept with stays | ⟨first, others, left, rfl, gap, goes⟩
              · exact inductionHypothesis keeps.2 (shrinks.notMem noAmpersand) stays enough
              · rw [lexemesFrom?_cons, gap]
                exact goOn shrinks
                  (shrinks_of_suffix first laterRespaced (suffix_of_lead_gap gap)) keeps.2 goes
          | hint content behind =>
              rw [found, Bool.and_eq_true, Bool.not_eq_true'] at keeps
              obtain ⟨rfl, keeps⟩ := keeps
              obtain ⟨first, others, inside, left, rfl, hint, goes⟩ := aligned.hint found
              rw [lexemesFrom?_cons, hint]
              exact goOn (shrinks_of_hint later found) (shrinks_of_hint laterRespaced hint) keeps
                goes
          | token =>
              rw [found] at keeps
              cases scanned : scanToken dialect previous character rest with
              | none =>
                  rw [scanned] at keeps
                  exact nomatch keeps
              | some result =>
                  obtain ⟨token, behind⟩ := result
                  simp only [scanned, Bool.and_eq_true, Bool.not_eq_true', beq_iff_eq] at keeps
                  obtain ⟨⟨rfl, same⟩, keeps⟩ := keeps
                  have plain := noAmpersand _ List.mem_cons_self
                  obtain ⟨others, left, rfl, rfl, isToken, scannedRespaced, goes⟩ :=
                    aligned.token found scanned plain same
                  have others := goOn
                    (shrinks_of_suffix character later (leaves_scanToken _ _ _ _ _ scanned))
                    (shrinks_of_suffix character laterRespaced
                      (leaves_scanToken _ _ _ _ _ scannedRespaced)) keeps goes
                  rw [lexemesFrom?_cons, isToken, scannedRespaced]
                  simp only [others]

end Lexer

open Text Lexer

/-- A text that keeps its tokens has the same lexemes on one line. -/
theorem lexemes?_collapse
    {dialect : Dialect}
    {text : List Char}
    (keeps : keepsTokens dialect text = true)
    (noAmpersand : '&' ∉ text) : lexemes? dialect (collapse text) = lexemes? dialect text := by
  rw [keepsTokens, Bool.and_eq_true, List.all_eq_true] at keeps
  have related : Respaced dialect true text (line text) :=
    Respaced.of_line fun character present blank => by simpa [blank] using keeps.1 character present
  have onLine (limit : Nat) (enough : (line text).length + 1 ≤ limit) :
      lexemesFrom? dialect limit none [] (line text) = lexemes? dialect text :=
    lexemesFrom?_respaced keeps.2 (by simpa using noAmpersand)
      (Aligned.of_respaced RespacedLater.nil related) enough
  rcases line_cases text with same | space
  · rw [same] at onLine
    exact onLine _ (by omega)
  · rw [space] at onLine
    have afterSpace := onLine (2 * (collapse text).length + 2) (by rw [List.length_cons]; omega)
    rw [lexemesFrom?_cons, lead_of_divides dialect.divides_space] at afterSpace
    exact afterSpace

end Sql
end TableReach
