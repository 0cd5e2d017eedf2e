import TableReach.Proofs.Sql.Lexer.Tokens

/-!
# Lexemes of a respaced text

Putting a text on one line keeps its lexemes where it changes nothing but the gaps
between the tokens.  `keepsTokens` says when that is so; it reads the text as the
lexer does.
-/

namespace TableReach
namespace Sql
namespace Lexer

open Text

/-- Whether the tokens of a text and of the texts `later` outlive the respacing, in at most `limit`
steps.  The text of each token has to be the same collapsed.  A line comment takes in all that
follows it on the line, so no token may stand behind one in the same text; `commented` says that
one was read.  In one dialect its mark is none at the end of the text. -/
def keepsTokensFrom
    (dialect : Dialect) :
    Nat → Bool → Option Token → List (List Char) → List Char → Bool
  | 0, _, _, _, _ => false
  | _ + 1, _, _, [], [] => true
  | limit + 1, _, previous, text :: later, [] =>
      keepsTokensFrom dialect limit false previous later text
  | limit + 1, commented, previous, later, character :: rest =>
      match lead dialect (character :: rest) with
      | .gap behind =>
          (commented || !(dialect == .mysql && character == '-' && allBlank (rest.drop 1))) &&
            keepsTokensFrom dialect limit (commented || character == '-' || character == '#') none
              later behind
      | .hint content behind =>
          !commented && keepsTokensFrom dialect limit false previous (behind :: later) content
      | .openComment => false
      | .token =>
          match scanToken dialect previous character rest with
          | none => false
          | some (token, behind) =>
              let whole := consumed (character :: rest) behind
              !commented && collapse whole == whole &&
                keepsTokensFrom dialect limit false (some token) later behind

/-- Putting the text on one line changes nothing but the gaps between its tokens. -/
def keepsTokens (dialect : Dialect) (text : List Char) : Bool :=
  text.all (fun character => !isBlank character || dialect.divides character) &&
    keepsTokensFrom dialect (2 * text.length + 1) false none [] text

variable
  {dialect : Dialect}
  {trims : Bool}
  {text rest respaced : List Char}

/-- What starts a text that starts with no mark of a comment. -/
theorem lead_of_noMark
    {character : Char}
    (noBlock : character = '/' → rest.head? ≠ some '*')
    (noLine : character = '-' → rest.head? ≠ some '-')
    (noHash : character ≠ '#') :
    lead dialect (character :: rest) =
      if dialect.divides character then .gap rest else .token := by
  generalize whole : character :: rest = text
  unfold lead
  split
  · obtain ⟨rfl, rfl⟩ := List.cons.inj whole
    exact absurd rfl (noBlock rfl)
  · obtain ⟨rfl, rfl⟩ := List.cons.inj whole
    exact absurd rfl (noLine rfl)
  · obtain ⟨rfl, rfl⟩ := List.cons.inj whole
    exact absurd rfl noHash
  · obtain ⟨rfl, rfl⟩ := List.cons.inj whole
    rfl
  · exact nomatch whole

/-- A blank that divides is a gap. -/
theorem lead_of_divides
    {character : Char}
    (divides : dialect.divides character = true) :
    lead dialect (character :: rest) = .gap rest := by
  have notMark := eq_false_of_isBlank
    (fun character => character == '/' || character == '-' || character == '#') (by decide)
    (Dialect.isBlank_of_divides divides)
  simp only [Bool.or_eq_false_iff, beq_eq_false_iff_ne] at notMark
  rw [lead_of_noMark (fun slash => absurd slash notMark.1.1) (fun dash => absurd dash notMark.1.2)
    notMark.2, if_pos divides]

/-- What a block comment stands for. -/
def blockLead (dialect : Dialect) : Option (List Char × List Char) → Lead
  | some (content, behind) =>
      if dialect == .mysql && content.head? == some '!' then
        .hint ((content.drop 1).dropLast.dropWhile Char.isDigit) behind
      else .gap behind
  | none => .openComment

theorem lead_block
    (rest : List Char) :
    lead dialect ('/' :: '*' :: rest) =
      blockLead dialect (comment? dialect.nestsComments ' ' 1 rest) :=
  rfl

theorem blockLead_ne_token
    (found : Option (List Char × List Char)) : blockLead dialect found ≠ .token := by
  unfold blockLead
  split
  · split <;> exact nofun
  · exact nofun

theorem lead_dashes
    (rest : List Char) :
    lead dialect ('-' :: '-' :: rest) =
      if dialect != .mysql || startsBlank rest then .gap (rest.dropWhile (· != '\n'))
      else .token :=
  rfl

theorem lead_hash
    (rest : List Char) :
    lead dialect ('#' :: rest) =
      if dialect == .mysql then .gap (rest.dropWhile (· != '\n')) else .token :=
  rfl

/-- What a text starts with: a block comment, two dashes, a hash sign, or none of them. -/
theorem lead_cases
    (dialect : Dialect)
    (character : Char)
    (rest : List Char) :
    (∃ body, character = '/' ∧ rest = '*' :: body ∧
        lead dialect (character :: rest) =
          blockLead dialect (comment? dialect.nestsComments ' ' 1 body)) ∨
      (∃ body, character = '-' ∧ rest = '-' :: body ∧
        lead dialect (character :: rest) =
          if dialect != .mysql || startsBlank body then .gap (body.dropWhile (· != '\n'))
          else .token) ∨
      (character = '#' ∧
        lead dialect (character :: rest) =
          if dialect == .mysql then .gap (rest.dropWhile (· != '\n')) else .token) ∨
      ((character = '/' → rest.head? ≠ some '*') ∧ (character = '-' → rest.head? ≠ some '-') ∧
        character ≠ '#' ∧
        lead dialect (character :: rest) =
          if dialect.divides character then .gap rest else .token) := by
  by_cases hash : character = '#'
  · subst hash
    exact Or.inr (Or.inr (Or.inl ⟨rfl, lead_hash rest⟩))
  · by_cases block : character = '/' ∧ rest.head? = some '*'
    · obtain ⟨rfl, first⟩ := block
      cases rest with
      | nil => exact nomatch first
      | cons next body =>
          obtain rfl := Option.some_inj.mp first
          exact Or.inl ⟨body, rfl, rfl, lead_block body⟩
    · by_cases line : character = '-' ∧ rest.head? = some '-'
      · obtain ⟨rfl, first⟩ := line
        cases rest with
        | nil => exact nomatch first
        | cons next body =>
            obtain rfl := Option.some_inj.mp first
            exact Or.inr (Or.inl ⟨body, rfl, rfl, lead_dashes body⟩)
      · have noBlock : character = '/' → rest.head? ≠ some '*' := fun slash first =>
          block ⟨slash, first⟩
        have noLine : character = '-' → rest.head? ≠ some '-' := fun dash first =>
          line ⟨dash, first⟩
        exact Or.inr (Or.inr (Or.inr
          ⟨noBlock, noLine, hash, lead_of_noMark noBlock noLine hash⟩))

/-- A token starts a respaced text where it starts the text. -/
theorem lead_respaced_of_token
    {character : Char}
    (notBlank : isBlank character = false)
    (related : Respaced dialect trims rest respaced)
    (token : lead dialect (character :: rest) = .token) :
    lead dialect (character :: respaced) = .token := by
  rcases lead_cases dialect character rest with ⟨body, rfl, rfl, equal⟩ | ⟨body, rfl, rfl, equal⟩ |
    ⟨rfl, equal⟩ | ⟨noBlock, noLine, noHash, _⟩
  · rw [equal] at token
    exact absurd token (blockLead_ne_token _)
  · obtain ⟨others, rfl, othersRelated⟩ := related.exists_of_letter rfl
    rw [equal] at token
    rw [lead_dashes]
    split at token
    · exact nomatch token
    · next noComment =>
        rw [Bool.not_eq_true, Bool.or_eq_false_iff] at noComment
        rw [noComment.1, othersRelated.startsBlank_eq_false noComment.2]
        rfl
  · rw [equal] at token
    rw [lead_hash]
    split at token
    · exact nomatch token
    · next elsewhere => rw [if_neg elsewhere]
  · have undivided : dialect.divides character = false := by
      rw [Dialect.divides, notBlank, Bool.false_and]
    rw [lead_of_noMark ?_ ?_ noHash, undivided]
    · rfl
    · exact fun slash first => noBlock slash (related.head?_eq first (by decide))
    · exact fun dash first => noLine dash (related.head?_eq first (by decide))

/-- A block comment that is a gap is one in a respaced text. -/
theorem blockLead_gap_respaced
    {body behind : List Char}
    (related : Respaced dialect trims body respaced)
    (gap : blockLead dialect (comment? dialect.nestsComments ' ' 1 body) = .gap behind) :
    ∃ left, blockLead dialect (comment? dialect.nestsComments ' ' 1 respaced) = .gap left ∧
      Respaced dialect trims behind left := by
  unfold blockLead at gap
  split at gap
  · next content after found =>
      split at gap
      · exact nomatch gap
      · next plain =>
          obtain rfl := Lead.gap.inj gap
          obtain ⟨inside, left, foundRespaced, insideRelated, leftRelated⟩ :=
            comment?_respaced related found
          refine ⟨left, ?_, leftRelated⟩
          rw [foundRespaced, blockLead, head?_beq_of_respaced rfl insideRelated, if_neg plain]
  · exact nomatch gap

/-- A hint is one in a respaced text, and its content is respaced on its own. -/
theorem blockLead_hint_respaced
    {body content behind : List Char}
    (related : Respaced dialect trims body respaced)
    (hint : blockLead dialect (comment? dialect.nestsComments ' ' 1 body) = .hint content behind) :
    ∃ inside left,
      blockLead dialect (comment? dialect.nestsComments ' ' 1 respaced) = .hint inside left ∧
        Respaced dialect false content inside ∧ Respaced dialect trims behind left := by
  unfold blockLead at hint
  split at hint
  · next whole after found =>
      split at hint
      · next isHint =>
          obtain ⟨rfl, rfl⟩ := Lead.hint.inj hint
          obtain ⟨wholeRespaced, left, foundRespaced, wholeRelated, leftRelated⟩ :=
            comment?_respaced related found
          have same := head?_beq_of_respaced (show isBlank '!' = false from rfl) wholeRelated
          refine ⟨(wholeRespaced.drop 1).dropLast.dropWhile Char.isDigit, left, ?_, ?_,
            leftRelated⟩
          · rw [foundRespaced, blockLead, same, if_pos isHint]
          · rw [Bool.and_eq_true, beq_iff_eq, beq_iff_eq] at isHint
            obtain ⟨start, startEqual⟩ := (comment?_last found).resolve_left
              (fun nothing => absurd nothing.2 (by decide))
            rw [startEqual] at isHint wholeRelated ⊢
            cases start with
            | nil => exact absurd isHint.2 (by decide)
            | cons mark inner =>
                obtain rfl := Option.some_inj.mp isHint.2
                obtain ⟨others, rfl, othersRelated⟩ := wholeRelated.exists_of_letter rfl
                obtain ⟨innerRespaced, rfl, innerRelated⟩ := othersRelated.exists_of_concat rfl
                simp only [List.cons_append, List.drop_one, List.tail_cons, List.dropLast_concat]
                exact (innerRelated.span fun _ divides =>
                  isDigit_of_isBlank (Dialect.isBlank_of_divides divides)).2
      · exact nomatch hint
  · exact nomatch hint

/-- What a gap leaves is an end of the text. -/
theorem suffix_of_lead_gap
    {character : Char}
    {behind : List Char}
    (gap : lead dialect (character :: rest) = .gap behind) : behind <:+ rest := by
  rcases lead_cases dialect character rest with ⟨body, rfl, rfl, equal⟩ | ⟨body, rfl, rfl, equal⟩ |
    ⟨rfl, equal⟩ | ⟨_, _, _, equal⟩
  · rw [equal] at gap
    unfold blockLead at gap
    split at gap
    · next content after found =>
        split at gap
        · exact nomatch gap
        · obtain rfl := Lead.gap.inj gap
          rw [comment?_append found]
          exact ⟨'*' :: (content ++ ['/']), by simp⟩
    · exact nomatch gap
  · rw [equal] at gap
    split at gap
    · obtain rfl := Lead.gap.inj gap
      exact (List.dropWhile_suffix _).trans (List.suffix_cons _ _)
    · exact nomatch gap
  · rw [equal] at gap
    split at gap
    · obtain rfl := Lead.gap.inj gap
      exact List.dropWhile_suffix _
    · exact nomatch gap
  · rw [equal] at gap
    split at gap
    · obtain rfl := Lead.gap.inj gap
      exact List.suffix_refl _
    · exact nomatch gap

/-- A hint is a block comment that holds its content, and what it leaves is an end of the text. -/
theorem parts_of_lead_hint
    {character : Char}
    {content behind : List Char}
    (hint : lead dialect (character :: rest) = .hint content behind) :
    ∃ body, character = '/' ∧ rest = '*' :: body ∧
      blockLead dialect (comment? dialect.nestsComments ' ' 1 body) = .hint content behind ∧
      behind <:+ body ∧ content ⊆ body ∧ content.length + behind.length ≤ body.length := by
  rcases lead_cases dialect character rest with ⟨body, rfl, rfl, equal⟩ | ⟨body, rfl, rfl, equal⟩ |
    ⟨rfl, equal⟩ | ⟨_, _, _, equal⟩
  · rw [equal] at hint
    refine ⟨body, rfl, rfl, hint, ?_⟩
    unfold blockLead at hint
    split at hint
    · next whole after found =>
        split at hint
        · obtain ⟨rfl, rfl⟩ := Lead.hint.inj hint
          have inside : ((whole.drop 1).dropLast.dropWhile Char.isDigit).Sublist whole :=
            (List.dropWhile_sublist _).trans
              ((List.dropLast_sublist _).trans (List.drop_sublist 1 whole))
          have bound := inside.length_le
          rw [comment?_append found]
          refine ⟨⟨whole ++ ['/'], by simp⟩, ?_, ?_⟩
          · exact List.Subset.trans inside.subset (List.subset_append_left _ _)
          · rw [List.length_append, List.length_cons]
            omega
        · exact nomatch hint
    · exact nomatch hint
  · rw [equal] at hint
    split at hint <;> exact nomatch hint
  · rw [equal] at hint
    split at hint <;> exact nomatch hint
  · rw [equal] at hint
    split at hint <;> exact nomatch hint

end Lexer
end Sql
end TableReach
