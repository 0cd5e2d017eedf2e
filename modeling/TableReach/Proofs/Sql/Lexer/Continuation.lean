import TableReach.Proofs.Sql.Lexer.Semicolon

/-!
# Lexemes in front of a semicolon

The lexer reads a text, and the same text with a semicolon and more behind it, in step:
`Extended` relates the two states.  At the end of the text the semicolon is read, unless
it stands on the line of a comment.
-/

namespace TableReach
namespace Sql
namespace Lexer

open Text

variable
  {dialect : Dialect}
  {after : List Char}

/-- A block comment ends at its mark. -/
theorem comment?_extended
    {nested : Bool}
    {before : Char}
    {depth : Nat}
    {text content behind : List Char}
    (found : comment? nested before depth text = some (content, behind))
    (more : List Char) :
    comment? nested before depth (text ++ more) = some (content, behind ++ more) := by
  induction text generalizing before depth content with
  | nil => exact nomatch found
  | cons character rest inductionHypothesis =>
      rcases comment?_cons nested before depth character with ⟨_, _, ends⟩ |
        ⟨next, nextDepth, _, goesOn⟩
      · rw [ends] at found
        obtain ⟨rfl, rfl⟩ := Prod.mk.inj (Option.some_inj.mp found)
        exact ends _
      · rw [goesOn] at found
        obtain ⟨parts, foundLater, equal⟩ := Option.map_eq_some_iff.mp found
        obtain ⟨rfl, rfl⟩ := Prod.mk.inj equal
        rw [List.cons_append, goesOn, inductionHypothesis foundLater]
        rfl

/-- What a block comment stands for, with more behind it. -/
theorem blockLead_extended
    {nested : Bool}
    {body : List Char}
    (closed : blockLead dialect (comment? nested ' ' 1 body) ≠ .openComment)
    (more : List Char) :
    ∃ content behind, comment? nested ' ' 1 body = some (content, behind) ∧
      comment? nested ' ' 1 (body ++ more) = some (content, behind ++ more) := by
  cases found : comment? nested ' ' 1 body with
  | none =>
      rw [found] at closed
      exact absurd rfl closed
  | some parts => exact ⟨parts.1, parts.2, rfl, comment?_extended found more⟩

/-- A semicolon and more on one line are behind the line of a comment, or on it. -/
theorem dropWhile_newline_semicolon
    (oneLine : '\n' ∉ after)
    (text : List Char) :
    (text ++ ';' :: after).dropWhile (· != '\n') =
        text.dropWhile (· != '\n') ++ ';' :: after ∨
      (text.dropWhile (· != '\n') = [] ∧
        (text ++ ';' :: after).dropWhile (· != '\n') = []) := by
  have nothing : (';' :: after).dropWhile (· != '\n') = [] := by
    rw [← List.append_nil (';' :: after), List.dropWhile_append_of_pos, List.dropWhile_nil]
    intro character present
    rw [bne_iff_ne]
    rintro rfl
    rcases List.mem_cons.mp present with same | inside
    · exact nomatch same
    · exact oneLine inside
  rw [List.dropWhile_append]
  split
  · next ends => exact Or.inr ⟨List.isEmpty_iff.mp ends, nothing⟩
  · exact Or.inl rfl

/-- A gap is one with a semicolon behind the text, unless it is the line of a comment. -/
theorem lead_gap_semicolon
    {character : Char}
    {rest behind : List Char}
    (oneLine : '\n' ∉ after)
    (gap : lead dialect (character :: rest) = .gap behind) :
    lead dialect (character :: (rest ++ ';' :: after)) = .gap (behind ++ ';' :: after) ∨
      (behind = [] ∧ lead dialect (character :: (rest ++ ';' :: after)) = .gap []) := by
  have ofLine (body : List Char) (ends : body.dropWhile (· != '\n') = behind) :
      Lead.gap ((body ++ ';' :: after).dropWhile (· != '\n')) = .gap (behind ++ ';' :: after) ∨
        (behind = [] ∧
          Lead.gap ((body ++ ';' :: after).dropWhile (· != '\n')) = .gap []) := by
    rw [← ends, Lead.gap.injEq, Lead.gap.injEq]
    exact dropWhile_newline_semicolon oneLine body
  rcases lead_cases dialect character rest with ⟨body, rfl, rfl, equal⟩ | ⟨body, rfl, rfl, equal⟩ |
    ⟨rfl, equal⟩ | ⟨noBlock, noLine, noHash, equal⟩
  · rw [equal] at gap
    obtain ⟨content, left, found, foundExtended⟩ :=
      blockLead_extended (by rw [gap]; rintro ⟨⟩) (';' :: after)
    rw [List.cons_append, lead_block, foundExtended]
    rw [found, blockLead] at gap
    rw [blockLead]
    split at gap
    · cases gap
    · next plain =>
        obtain rfl := Lead.gap.inj gap
        exact Or.inl (if_neg plain)
  · rw [equal] at gap
    rw [List.cons_append, lead_dashes]
    have sameStart : startsBlank (body ++ ';' :: after) = startsBlank body := by
      cases body <;> rfl
    rw [sameStart]
    split at gap
    · next starts =>
        rw [if_pos starts]
        exact ofLine body (Lead.gap.inj gap)
    · cases gap
  · rw [equal] at gap
    rw [lead_hash]
    split at gap
    · next isComment =>
        rw [if_pos isComment]
        exact ofLine rest (Lead.gap.inj gap)
    · cases gap
  · rw [equal] at gap
    split at gap
    · next divides =>
        obtain rfl := Lead.gap.inj gap
        exact Or.inl (lead_of_divides divides)
    · cases gap

/-- A hint is one with a semicolon behind the text. -/
theorem lead_hint_semicolon
    {character : Char}
    {rest content behind : List Char}
    (hint : lead dialect (character :: rest) = .hint content behind) :
    lead dialect (character :: (rest ++ ';' :: after)) =
      .hint content (behind ++ ';' :: after) := by
  obtain ⟨body, rfl, rfl, isHint, _⟩ := parts_of_lead_hint hint
  obtain ⟨whole, left, found, foundExtended⟩ :=
    blockLead_extended (by rw [isHint]; rintro ⟨⟩) (';' :: after)
  rw [List.cons_append, lead_block, foundExtended]
  rw [found, blockLead] at isHint
  rw [blockLead]
  split at isHint
  · next marked =>
      obtain ⟨rfl, rfl⟩ := Lead.hint.inj isHint
      exact if_pos marked
  · cases isHint

/-- A token starts a text with and without a semicolon behind it. -/
theorem lead_token_semicolon
    {character : Char}
    {rest : List Char}
    (token : lead dialect (character :: rest) = .token) :
    lead dialect (character :: (rest ++ ';' :: after)) = .token := by
  rcases lead_cases dialect character rest with ⟨body, rfl, rfl, equal⟩ | ⟨body, rfl, rfl, equal⟩ |
    ⟨rfl, equal⟩ | ⟨noBlock, noLine, noHash, equal⟩
  · rw [equal] at token
    exact absurd token (blockLead_ne_token _)
  · have sameStart : startsBlank (body ++ ';' :: after) = startsBlank body := by
      cases body <;> rfl
    rw [equal] at token
    rw [List.cons_append, lead_dashes, sameStart]
    split at token
    · exact nomatch token
    · next noComment => exact if_neg noComment
  · rw [equal] at token
    rw [lead_hash]
    split at token
    · exact nomatch token
    · next noComment => exact if_neg noComment
  · rw [equal] at token
    rw [lead_of_noMark
      (fun slash => mt (head?_semicolon_iff (by decide) rest).mp (noBlock slash))
      (fun dash => mt (head?_semicolon_iff (by decide) rest).mp (noLine dash)) noHash]
    split at token
    · exact nomatch token
    · next letter => exact if_neg letter

/-- A semicolon and more stand behind the text that is read last. -/
inductive Extended (after : List Char) :
    List (List Char) → List Char → List (List Char) → List Char → Prop
  /-- Behind the text itself. -/
  | here (text : List Char) : Extended after [] text [] (text ++ ';' :: after)
  /-- Behind a text that is read later. -/
  | later
      {others othersExtended : List (List Char)}
      {next nextExtended : List Char}
      (text : List Char)
      (extended : Extended after others next othersExtended nextExtended) :
      Extended after (next :: others) text (nextExtended :: othersExtended) text

/-- The last of the lexemes takes the character behind it along. -/
def endsInSign (dialect : Dialect) (lexemes : List Lexeme) : Bool :=
  lexemes.getLast?.any fun last => takesAlong dialect last.token

theorem endsInSign_of_cons
    {lexeme : Lexeme}
    {others : List Lexeme}
    (unsigned : endsInSign dialect (lexeme :: others) = false) :
    endsInSign dialect others = false := by
  cases others with
  | nil => rfl
  | cons next rest => rwa [endsInSign, List.getLast?_cons_cons] at unsigned

/-- At the end of a text the semicolon is read. -/
theorem lexemesFrom?_semicolon
    {limit : Nat}
    {previous : Option Token}
    {all : List Lexeme}
    (found : lexemesFrom? dialect (limit + 1) previous [] (';' :: after) = some all) :
    ∃ others, all = { token := .symbol ";", keyword := "", spaced := previous.isNone } :: others := by
  have isToken : lead dialect (';' :: after) = .token := by
    cases dialect <;> rfl
  have scanned : scanToken dialect previous ';' after = Scan.ofSymbol ";" after := by
    cases dialect <;> rfl
  rw [lexemesFrom?_cons, isToken, scanned] at found
  obtain ⟨others, _, rfl⟩ := Option.map_eq_some_iff.mp found
  exact ⟨others, rfl⟩

/-- All that is read are the lexemes, a semicolon and others; or the lexemes alone, where the
semicolon is inside of a comment. -/
def Continues (lexemes all : List Lexeme) : Prop :=
  all = lexemes ∨ ∃ spaced others,
    all = lexemes ++ { token := .symbol ";", keyword := "", spaced := spaced } :: others

theorem Continues.cons
    {lexemes all : List Lexeme}
    (lexeme : Lexeme)
    (continues : Continues lexemes all) : Continues (lexeme :: lexemes) (lexeme :: all) := by
  rcases continues with rfl | ⟨spaced, others, rfl⟩
  · exact Or.inl rfl
  · exact Or.inr ⟨spaced, others, rfl⟩

namespace Extended

variable
  {later laterExtended : List (List Char)}
  {character : Char}
  {rest textExtended behind : List Char}

/-- A gap is passed in both texts, or it reaches to the end of both. -/
theorem gap
    (oneLine : '\n' ∉ after)
    (isGap : lead dialect (character :: rest) = .gap behind)
    (extended : Extended after later (character :: rest) laterExtended textExtended) :
    ∃ others left, textExtended = character :: others ∧
      lead dialect (character :: others) = .gap left ∧
      (Extended after later behind laterExtended left ∨
        (later = [] ∧ behind = [] ∧ laterExtended = [] ∧ left = [])) := by
  cases extended with
  | here =>
      rcases lead_gap_semicolon oneLine isGap with same | ⟨ends, endsExtended⟩
      · exact ⟨_, _, rfl, same, Or.inl (here behind)⟩
      · exact ⟨_, [], rfl, endsExtended, Or.inr ⟨rfl, ends, rfl, rfl⟩⟩
  | later _ extended => exact ⟨_, _, rfl, isGap, Or.inl (later behind extended)⟩

theorem hint
    {content : List Char}
    (isHint : lead dialect (character :: rest) = .hint content behind)
    (extended : Extended after later (character :: rest) laterExtended textExtended) :
    ∃ others left, textExtended = character :: others ∧
      lead dialect (character :: others) = .hint content left ∧
      Extended after (behind :: later) content (left :: laterExtended) content := by
  cases extended with
  | here => exact ⟨_, _, rfl, lead_hint_semicolon isHint, later content (here behind)⟩
  | later _ extended => exact ⟨_, _, rfl, isHint, later content (later behind extended)⟩

/-- A token is the same in both texts, unless it ends the text and takes the semicolon along. -/
theorem token
    {limit : Nat}
    {previous : Option Token}
    {found : Token}
    {others : List Lexeme}
    (isToken : lead dialect (character :: rest) = .token)
    (scanned : scanToken dialect previous character rest = some (found, behind))
    (foundOthers : lexemesFrom? dialect limit (some found) later behind = some others)
    (unsigned : endsInSign dialect
      ({ token := found, keyword := found.keyword, spaced := previous.isNone } :: others) = false)
    (extended : Extended after later (character :: rest) laterExtended textExtended) :
    ∃ more left, textExtended = character :: more ∧
      lead dialect (character :: more) = .token ∧
      scanToken dialect previous character more = some (found, left) ∧
      Extended after later behind laterExtended left := by
  cases extended with
  | here =>
      refine ⟨_, _, rfl, lead_token_semicolon isToken, ?_, here behind⟩
      refine extends_scanToken previous character rest found behind scanned ?_
      rintro rfl
      rw [lexemesFrom?_nil] at foundOthers
      obtain rfl := Option.some_inj.mp foundOthers
      exact unsigned
  | later _ extended => exact ⟨_, _, rfl, isToken, scanned, later behind extended⟩

end Extended

/-- The lexemes of a text with a semicolon and more behind it, for all limits that are large
enough. -/
theorem lexemesFrom?_extended
    {limit limitExtended : Nat}
    {previous : Option Token}
    {later laterExtended : List (List Char)}
    {text textExtended : List Char}
    {lexemes all : List Lexeme}
    (oneLine : '\n' ∉ after)
    (found : lexemesFrom? dialect limit previous later text = some lexemes)
    (foundExtended :
      lexemesFrom? dialect limitExtended previous laterExtended textExtended = some all)
    (enough : effort later text ≤ limit)
    (enoughExtended : effort laterExtended textExtended ≤ limitExtended)
    (extended : Extended after later text laterExtended textExtended)
    (unsigned : endsInSign dialect lexemes = false) : Continues lexemes all := by
  induction limit generalizing limitExtended previous later laterExtended text textExtended lexemes
    all with
  | zero =>
      rw [effort] at enough
      omega
  | succ limit inductionHypothesis =>
      obtain ⟨limitExtended, rfl⟩ : ∃ smaller, limitExtended = smaller + 1 :=
        ⟨limitExtended - 1, by rw [effort] at enoughExtended; omega⟩
      have goOn {token : Option Token}
          {nextLater nextLaterExtended : List (List Char)} {nextText nextExtended : List Char}
          {nextLexemes nextAll : List Lexeme}
          (shrinks : Shrinks later text nextLater nextText)
          (shrinksExtended : Shrinks laterExtended textExtended nextLaterExtended nextExtended)
          (found : lexemesFrom? dialect limit token nextLater nextText = some nextLexemes)
          (foundExtended : lexemesFrom? dialect limitExtended token nextLaterExtended
            nextExtended = some nextAll)
          (extended : Extended after nextLater nextText nextLaterExtended nextExtended)
          (unsigned : endsInSign dialect nextLexemes = false) : Continues nextLexemes nextAll :=
        inductionHypothesis found foundExtended
          (Nat.le_of_lt_succ (Nat.lt_of_lt_of_le shrinks.2 enough))
          (Nat.le_of_lt_succ (Nat.lt_of_lt_of_le shrinksExtended.2 enoughExtended))
          extended unsigned
      cases text with
      | nil =>
          cases extended with
          | here =>
              obtain rfl := Option.some_inj.mp found
              obtain ⟨others, rfl⟩ := lexemesFrom?_semicolon foundExtended
              exact Or.inr ⟨_, others, rfl⟩
          | later _ extended =>
              exact goOn (shrinks_of_end _ _) (shrinks_of_end _ _) found foundExtended extended
                unsigned
      | cons character rest =>
          rw [lexemesFrom?_cons] at found
          cases start : lead dialect (character :: rest) with
          | openComment =>
              rw [start] at found
              cases found
          | gap behind =>
              rw [start] at found
              obtain ⟨others, left, rfl, same, goes⟩ := extended.gap oneLine start
              rw [lexemesFrom?_cons, same] at foundExtended
              rcases goes with goes | ⟨rfl, rfl, rfl, rfl⟩
              · exact goOn (shrinks_of_suffix character later (suffix_of_lead_gap start))
                  (shrinks_of_suffix character laterExtended (suffix_of_lead_gap same)) found
                  foundExtended goes unsigned
              · dsimp only at found foundExtended
                rw [lexemesFrom?_nil] at found foundExtended
                exact Or.inl (Option.some_inj.mp (foundExtended.symm.trans found))
          | hint content behind =>
              rw [start] at found
              obtain ⟨others, left, rfl, same, goes⟩ := extended.hint start
              rw [lexemesFrom?_cons, same] at foundExtended
              exact goOn (shrinks_of_hint later start) (shrinks_of_hint laterExtended same) found
                foundExtended goes unsigned
          | token =>
              rw [start] at found
              cases scanned : scanToken dialect previous character rest with
              | none =>
                  rw [scanned] at found
                  cases found
              | some result =>
                  obtain ⟨token, behind⟩ := result
                  rw [scanned] at found
                  obtain ⟨others, foundOthers, rfl⟩ := Option.map_eq_some_iff.mp found
                  obtain ⟨more, left, rfl, same, scannedExtended, goes⟩ :=
                    extended.token start scanned foundOthers unsigned
                  rw [lexemesFrom?_cons, same, scannedExtended] at foundExtended
                  obtain ⟨all, foundAll, rfl⟩ := Option.map_eq_some_iff.mp foundExtended
                  exact Continues.cons _ (goOn
                    (shrinks_of_suffix character later (leaves_scanToken _ _ _ _ _ scanned))
                    (shrinks_of_suffix character laterExtended
                      (leaves_scanToken _ _ _ _ _ scannedExtended))
                    foundOthers foundAll goes (endsInSign_of_cons unsigned))

end Lexer

open Lexer

/-- The lexemes of a text with a semicolon and more behind it on the same line are those of the
text, the semicolon and others; or those of the text alone, where the semicolon is inside of a
comment. -/
theorem lexemes?_semicolon
    {dialect : Dialect}
    {text after : List Char}
    {lexemes all : List Lexeme}
    (oneLine : '\n' ∉ after)
    (found : lexemes? dialect text = some lexemes)
    (foundAll : lexemes? dialect (text ++ ';' :: after) = some all)
    (unsigned : endsInSign dialect lexemes = false) : Continues lexemes all := by
  have enough (whole : List Char) : effort [] whole ≤ 2 * whole.length + 1 := by
    simp only [effort, List.flatten_nil, List.length_nil]
    omega
  exact lexemesFrom?_extended oneLine found foundAll (enough text) (enough _) (Extended.here text)
    unsigned

end Sql
end TableReach
