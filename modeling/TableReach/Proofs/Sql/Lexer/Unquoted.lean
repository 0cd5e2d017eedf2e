import TableReach.Sql.Lexer.Number
import TableReach.Proofs.Sql.Spacing

/-!
# Words, numbers and operators in respaced texts

A token that is not quoted ends before the first blank at the latest, and whether
it ends before depends on characters that are not blank.  So it is the same token
in a respaced text.
-/

namespace TableReach
namespace Sql
namespace Lexer

open Text

variable
  {dialect : Dialect}
  {trims : Bool}
  {text rest respaced : List Char}

/-- Whatever the first scan finds, the second one finds too, and what it leaves is respaced. -/
def Follows
    (dialect : Dialect)
    (trims : Bool)
    (scan other : Scan) : Prop :=
  ∀ token behind, scan = some (token, behind) →
    ∃ left, other = some (token, left) ∧ Respaced dialect trims behind left

theorem Follows.of_some
    {token : Token}
    {behind left : List Char}
    (related : Respaced dialect trims behind left) :
    Follows dialect trims (some (token, behind)) (some (token, left)) := by
  rintro _ _ ⟨⟩
  exact ⟨left, rfl, related⟩

theorem Follows.of_none
    {other : Scan} : Follows dialect trims none other :=
  fun _ _ found => nomatch found

/-- The same for the token at the start of a text, if the text of the token is its own line. -/
def FollowsLine
    (dialect : Dialect)
    (trims : Bool)
    (text : List Char)
    (scan other : Scan) : Prop :=
  ∀ token behind, scan = some (token, behind) →
    ∀ start, text = start ++ behind → line start = start →
      ∃ left, other = some (token, left) ∧ Respaced dialect trims behind left

theorem Follows.followsLine
    {scan other : Scan}
    (follows : Follows dialect trims scan other)
    (text : List Char) : FollowsLine dialect trims text scan other :=
  fun token behind found _ _ _ => follows token behind found

/-- Two scans that branch on the same condition. -/
theorem FollowsLine.ite
    {condition : Prop}
    [Decidable condition]
    {yes yesOther no noOther : Scan}
    (whenTrue : condition → FollowsLine dialect trims text yes yesOther)
    (whenFalse : ¬ condition → FollowsLine dialect trims text no noOther) :
    FollowsLine dialect trims text (if condition then yes else no)
      (if condition then yesOther else noOther) := by
  by_cases holds : condition
  · rw [if_pos holds, if_pos holds]
    exact whenTrue holds
  · rw [if_neg holds, if_neg holds]
    exact whenFalse holds

theorem follows_scanWord
    (start : List Char)
    (related : Respaced dialect trims rest respaced) :
    Follows dialect trims (scanWord dialect start rest) (scanWord dialect start respaced) := by
  obtain ⟨same, behind⟩ := related.span fun _ => Dialect.continuesName_of_divides
  rw [scanWord, scanWord, same]
  exact Follows.of_some behind

/-- What stands first in a text, as far as a property that no blank has is concerned. -/
theorem head?_map_of_respaced
    (property : Char → Bool)
    (fails : ∀ character, isBlank character = true → property character = false)
    (related : Respaced dialect trims text respaced) :
    (respaced.head?.map property).getD false = (text.head?.map property).getD false := by
  rcases related.start_cases with ⟨_, _, _, _, rfl, rfl, _⟩ | ⟨blank, space⟩
  · rfl
  · have first : (text.head?.map property).getD false = false := by
      cases text with
      | nil => rfl
      | cons character others =>
          exact fails character (Dialect.isBlank_of_divides (blank character rfl))
    rw [first]
    cases respaced with
    | nil => rfl
    | cons character others =>
        obtain rfl := space character rfl
        exact fails ' ' rfl

/-- A mark that is no blank stands first in both texts or in neither. -/
theorem head?_beq_of_respaced
    {mark : Char}
    (notBlank : isBlank mark = false)
    (related : Respaced dialect trims text respaced) :
    (respaced.head? == some mark) = (text.head? == some mark) := by
  have same := head?_map_of_respaced (· == mark) (fun character blank => by
    rw [beq_eq_false_iff_ne]
    rintro rfl
    rw [notBlank] at blank
    exact nomatch blank) related
  cases first : text.head? <;> cases second : respaced.head? <;>
    simp_all

/-- Without a mark that is no blank what follows is respaced on its own. -/
theorem respaced_drop_one
    {mark : Char}
    (notBlank : isBlank mark = false)
    (first : text.head? = some mark)
    (related : Respaced dialect trims text respaced) :
    Respaced dialect trims (text.drop 1) (respaced.drop 1) := by
  cases text with
  | nil => exact nomatch first
  | cons character others =>
      obtain rfl := Option.some_inj.mp first
      obtain ⟨left, rfl, leftRelated⟩ := related.exists_of_letter notBlank
      exact leftRelated

theorem isHexDigit_of_isBlank
    {character : Char}
    (blank : isBlank character = true) : isHexDigit character = false :=
  eq_false_of_isBlank _ (by decide) blank

/-- Runs of digits. -/
theorem digitRun_respaced
    {isDigit : Char → Bool}
    (fails : ∀ character, isBlank character = true → isDigit character = false)
    (underscores : Bool)
    (related : Respaced dialect trims text respaced) :
    (digitRun isDigit underscores respaced).1 = (digitRun isDigit underscores text).1 ∧
      Respaced dialect trims (digitRun isDigit underscores text).2
        (digitRun isDigit underscores respaced).2 := by
  induction text generalizing respaced with
  | nil =>
      rw [related.eq_nil]
      exact ⟨rfl, Respaced.nil⟩
  | cons first rest inductionHypothesis =>
      rcases related.start_cases with ⟨_, _, others, _, equal, rfl, othersRelated⟩ | ⟨blank, space⟩
      · obtain ⟨rfl, rfl⟩ := List.cons.inj equal
        have next := head?_map_of_respaced isHexDigit (fun _ => isHexDigit_of_isBlank) othersRelated
        obtain ⟨same, behind⟩ := inductionHypothesis othersRelated
        simp only [digitRun, next]
        split
        · exact ⟨by rw [same], behind⟩
        · exact ⟨rfl, related⟩
      · have stops (character : Char) (others : List Char) (isBlank : isBlank character = true) :
            digitRun isDigit underscores (character :: others) = ([], character :: others) := by
          have notUnderscore : (character == '_') = false :=
            eq_false_of_isBlank (· == '_') (by decide) isBlank
          simp [digitRun, fails character isBlank, notUnderscore]
        rw [stops first rest (Dialect.isBlank_of_divides (blank first rfl))]
        cases respaced with
        | nil => exact ⟨rfl, related⟩
        | cons character others =>
            obtain rfl := space character rfl
            rw [stops ' ' others rfl]
            exact ⟨rfl, related⟩

/-- What stands where an exponent may stand is the same, and what follows is respaced. -/
inductive Exponent.Follows
    (dialect : Dialect)
    (trims : Bool) : Exponent → Exponent → Prop
  | absent : Exponent.Follows dialect trims .absent .absent
  | letterOnly : Exponent.Follows dialect trims .letterOnly .letterOnly
  | present
      {text rest respaced : List Char}
      (related : Respaced dialect trims rest respaced) :
      Exponent.Follows dialect trims (.present text rest) (.present text respaced)

/-- The sign that stands in front of digits, if there is one. -/
def signOf (text : List Char) : List Char :=
  (text.take 1).filter fun character => character == '+' || character == '-'

/-- Signs. -/
theorem signOf_respaced
    (related : Respaced dialect trims text respaced) :
    signOf respaced = signOf text ∧
      Respaced dialect trims (text.drop (signOf text).length)
        (respaced.drop (signOf text).length) := by
  rcases related.start_cases with ⟨first, rest, others, _, rfl, rfl, behind⟩ | ⟨blank, space⟩
  · refine ⟨rfl, ?_⟩
    by_cases isSign : (first == '+' || first == '-') = true
    · simpa [signOf, isSign] using behind
    · simpa [signOf, isSign] using related
  · have nothing (text : List Char) (starts : ∀ character ∈ text.head?, isBlank character = true) :
        signOf text = [] := by
      cases text with
      | nil => rfl
      | cons character others =>
          have notSign := eq_false_of_isBlank
            (fun character => character == '+' || character == '-') (by decide)
            (starts character rfl)
          simp [signOf, notSign]
    rw [nothing text fun character first => Dialect.isBlank_of_divides (blank character first),
      nothing respaced fun character first => space character first ▸ rfl]
    exact ⟨rfl, related⟩

/-- An exponent is a letter, a sign and digits. -/
theorem exponent_cons
    (mark : Char)
    (rest : List Char) :
    exponent (mark :: rest) =
      let digits := rest.drop (signOf rest).length
      if mark == 'e' || mark == 'E' then
        if (digits.head?.map Char.isDigit).getD false then
          .present (mark :: signOf rest ++ digits.takeWhile Char.isDigit)
            (digits.dropWhile Char.isDigit)
        else .letterOnly
      else .absent :=
  rfl

/-- Exponents. -/
theorem exponent_respaced
    (related : Respaced dialect trims text respaced) :
    Exponent.Follows dialect trims (exponent text) (exponent respaced) := by
  rcases related.start_cases with ⟨mark, rest, others, _, rfl, rfl, behind⟩ | ⟨blank, space⟩
  · obtain ⟨sameSign, digits⟩ := signOf_respaced behind
    have nextDigit := head?_map_of_respaced Char.isDigit (fun _ => isDigit_of_isBlank) digits
    obtain ⟨sameDigits, left⟩ := digits.span fun character divides =>
      isDigit_of_isBlank (Dialect.isBlank_of_divides divides)
    rw [exponent_cons, exponent_cons, sameSign]
    dsimp only
    rw [nextDigit, sameDigits]
    split
    · split
      · exact Exponent.Follows.present left
      · exact Exponent.Follows.letterOnly
    · exact Exponent.Follows.absent
  · have nothing (text : List Char) (starts : ∀ character ∈ text.head?, isBlank character = true) :
        exponent text = .absent := by
      cases text with
      | nil => rfl
      | cons character others =>
          have notMark := eq_false_of_isBlank
            (fun character => character == 'e' || character == 'E') (by decide)
            (starts character rfl)
          simp only [exponent, notMark]
          rfl
    rw [nothing text fun character first => Dialect.isBlank_of_divides (blank character first),
      nothing respaced fun character first => space character first ▸ rfl]
    exact Exponent.Follows.absent

/-- A number and a mark of its length. -/
theorem follows_ofDigits
    (digits : List Char)
    (related : Respaced dialect trims rest respaced) :
    Follows dialect trims (ofDigits digits rest) (ofDigits digits respaced) := by
  have same := head?_beq_of_respaced (show isBlank 'L' = false from rfl) related
  unfold ofDigits
  rw [same]
  apply Follows.of_some
  split
  · next long => exact respaced_drop_one rfl (by simpa using long) related
  · exact related

/-- What stands behind a start is what is left without it. -/
theorem drop_length_takeWhile
    (property : Char → Bool)
    (text : List Char) :
    text.drop (text.takeWhile property).length = text.dropWhile property := by
  have split := List.takeWhile_append_dropWhile (p := property) (l := text)
  calc
    text.drop (text.takeWhile property).length =
        (text.takeWhile property ++ text.dropWhile property).drop
          (text.takeWhile property).length := by rw [split]
    _ = text.dropWhile property := List.drop_left

/-- Numbers behind their fraction. -/
theorem follows_scanPower
    (previous : Option Token)
    (digits : List Char)
    (related : Respaced dialect trims rest respaced) :
    Follows dialect trims (scanPower dialect previous digits rest)
      (scanPower dialect previous digits respaced) := by
  obtain ⟨sameLetters, behind⟩ := related.span fun _ => Dialect.continuesName_of_divides
  have power := exponent_respaced related
  unfold scanPower
  cases first : exponent rest with
  | absent =>
      rw [first] at power
      generalize exponent respaced = other at power
      cases power
      dsimp only
      rw [sameLetters, drop_length_takeWhile, ← sameLetters, drop_length_takeWhile, sameLetters]
      split
      · exact Follows.of_some behind
      · exact follows_ofDigits digits related
  | letterOnly =>
      rw [first] at power
      generalize exponent respaced = other at power
      cases power
      dsimp only
      split
      · exact Follows.of_some related
      · exact follows_ofDigits digits related
  | present text left =>
      rw [first] at power
      generalize exponent respaced = other at power
      cases power with
      | present leftRelated =>
          dsimp only
          split
          · exact Follows.of_some leftRelated
          · exact follows_ofDigits _ leftRelated

/-- What a number starts with, said without the case of a period before an underscore. -/
theorem scanNumber_eq
    (previous : Option Token)
    (ordinary : ∀ rest, text ≠ '.' :: '_' :: rest) :
    scanNumber dialect previous text =
      let afterWord := (previous.map Token.isWord).getD false
      let underscores := dialect == .postgresql
      let whole := digitRun Char.isDigit underscores text
      if whole.1 == ['0'] && whole.2.head? == some 'x' then
        some (.literal .hexadecimal "", (digitRun isHexDigit underscores (whole.2.drop 1)).2)
      else
        let point := whole.2.head? == some '.'
        let rest := if point then whole.2.drop 1 else whole.2
        if whole.1.isEmpty && dialect.namesStartWithDigits && afterWord then
          Scan.ofSymbol "." rest
        else
          let fraction := digitRun Char.isDigit underscores rest
          let digits := whole.1 ++ (if point then ['.'] else []) ++ fraction.1
          if digits == ['.'] then Scan.ofSymbol "." rest
          else scanPower dialect previous digits fraction.2 := by
  unfold scanNumber
  split
  · exact absurd rfl (ordinary _)
  · rfl

/-- Numbers. -/
theorem follows_scanNumber
    (previous : Option Token)
    (related : Respaced dialect trims text respaced) :
    Follows dialect trims (scanNumber dialect previous text)
      (scanNumber dialect previous respaced) := by
  by_cases ordinary : ∀ rest, text ≠ '.' :: '_' :: rest
  · have ordinaryRespaced : ∀ rest, respaced ≠ '.' :: '_' :: rest := by
      rintro rest rfl
      rcases related.start_cases with ⟨_, behind, _, _, rfl, equal, behindRelated⟩ | ⟨_, space⟩
      · obtain ⟨rfl, rfl⟩ := List.cons.inj equal
        have second := behindRelated.head?_eq rfl (by decide)
        cases behind with
        | nil => exact nomatch second
        | cons character others =>
            obtain rfl := Option.some_inj.mp second
            exact ordinary others rfl
      · exact absurd (space '.' rfl) (by decide)
    rw [scanNumber_eq previous ordinary, scanNumber_eq previous ordinaryRespaced]
    dsimp only
    generalize underscoresEqual : (dialect == Dialect.postgresql) = underscores
    obtain ⟨sameWhole, wholeRelated⟩ :=
      digitRun_respaced (fun _ => isDigit_of_isBlank) underscores related
    have sameX := head?_beq_of_respaced (show isBlank 'x' = false from rfl) wholeRelated
    have samePoint := head?_beq_of_respaced (show isBlank '.' = false from rfl) wholeRelated
    rw [sameWhole, sameX, samePoint]
    generalize digitRun Char.isDigit underscores text = whole at *
    generalize digitRun Char.isDigit underscores respaced = wholeRespaced at *
    split
    · next hexadecimal =>
        rw [Bool.and_eq_true] at hexadecimal
        have behind := respaced_drop_one rfl (by simpa using hexadecimal.2) wholeRelated
        exact Follows.of_some
          (digitRun_respaced (fun _ => isHexDigit_of_isBlank) underscores behind).2
    · have behind :
          Respaced dialect trims
            (if (whole.2.head? == some '.') = true then whole.2.drop 1 else whole.2)
            (if (whole.2.head? == some '.') = true then wholeRespaced.2.drop 1
              else wholeRespaced.2) := by
        split
        · next point => exact respaced_drop_one rfl (by simpa using point) wholeRelated
        · exact wholeRelated
      generalize (if (whole.2.head? == some '.') = true then whole.2.drop 1 else whole.2) = left
        at behind ⊢
      generalize (if (whole.2.head? == some '.') = true then wholeRespaced.2.drop 1
        else wholeRespaced.2) = leftRespaced at behind ⊢
      generalize whole.1 ++ (if (whole.2.head? == some '.') = true then ['.'] else []) = digits
      obtain ⟨sameFraction, fractionRelated⟩ :=
        digitRun_respaced (fun _ => isDigit_of_isBlank) underscores behind
      split
      · exact Follows.of_some behind
      · rw [sameFraction]
        split
        · exact Follows.of_some behind
        · exact follows_scanPower previous _ fractionRelated
  · obtain ⟨rest, equal⟩ := Classical.not_forall.mp ordinary
    obtain rfl := Classical.not_not.mp equal
    obtain ⟨others, rfl, othersRelated⟩ := related.exists_of_letter rfl
    obtain ⟨left, rfl, leftRelated⟩ := othersRelated.exists_of_letter rfl
    simp only [scanNumber]
    split
    · exact Follows.of_some othersRelated
    · exact Follows.of_none

/-- A mark without blanks stands first in both texts or in neither. -/
theorem isPrefixOf_respaced
    {mark : List Char}
    (letters : ∀ character ∈ mark, isBlank character = false)
    (related : Respaced dialect trims text respaced) :
    mark.isPrefixOf respaced = mark.isPrefixOf text := by
  induction mark generalizing text respaced with
  | nil => rw [List.isPrefixOf_nil_left, List.isPrefixOf_nil_left]
  | cons first mark inductionHypothesis =>
      have letter := letters first List.mem_cons_self
      rcases related.start_cases with ⟨_, _, _, _, rfl, rfl, behind⟩ | ⟨blank, space⟩
      · rw [List.isPrefixOf_cons_cons, List.isPrefixOf_cons_cons,
          inductionHypothesis (fun _ present => letters _ (List.mem_cons_of_mem _ present)) behind]
      · have differs (text : List Char)
            (starts : ∀ character ∈ text.head?, isBlank character = true) :
            (first :: mark).isPrefixOf text = false := by
          cases text with
          | nil => rfl
          | cons character others =>
              have isBlank := starts character rfl
              have other : (first == character) = false := by
                rw [beq_eq_false_iff_ne]
                rintro rfl
                rw [letter] at isBlank
                exact nomatch isBlank
              rw [List.isPrefixOf_cons_cons, other, Bool.false_and]
        rw [differs text fun character first =>
            Dialect.isBlank_of_divides (blank character first),
          differs respaced fun character first => space character first ▸ rfl]

/-- Without a mark that has no blanks what follows is respaced on its own. -/
theorem respaced_drop_prefix
    {mark : List Char}
    (letters : ∀ character ∈ mark, isBlank character = false)
    (starts : mark.isPrefixOf text = true)
    (related : Respaced dialect trims text respaced) :
    Respaced dialect trims (text.drop mark.length) (respaced.drop mark.length) := by
  induction mark generalizing text respaced with
  | nil => exact related
  | cons first mark inductionHypothesis =>
      cases text with
      | nil => exact nomatch starts
      | cons character rest =>
          rw [List.isPrefixOf_cons_cons, Bool.and_eq_true, beq_iff_eq] at starts
          obtain ⟨rfl, more⟩ := starts
          obtain ⟨others, rfl, behind⟩ :=
            related.exists_of_letter (letters first List.mem_cons_self)
          exact inductionHypothesis
            (fun _ present => letters _ (List.mem_cons_of_mem _ present)) more behind

theorem isBlank_of_mem_symbol
    {entry : String × Ending}
    {character : Char}
    (present : entry ∈ symbols dialect)
    (inside : character ∈ entry.1.toList) : isBlank character = false := by
  have noBlank : ((symbols dialect).any fun entry => entry.1.toList.any isBlank) = false := by
    cases dialect <;> decide
  simp only [List.any_eq_false, Bool.not_eq_true] at noBlank
  exact noBlank entry present character inside

/-- Choosing between the best entry so far and the next one ends with the first best entry or with
an entry of the list. -/
theorem mem_of_foldl_choice
    {choose : Option (String × Ending) → String × Ending → Option (String × Ending)}
    {entry : String × Ending}
    {found : List (String × Ending)}
    {best : Option (String × Ending)}
    (result : found.foldl choose best = some entry)
    (chooses : ∀ best next, choose best next = best ∨ choose best next = some next) :
    best = some entry ∨ entry ∈ found := by
  induction found generalizing best with
  | nil => exact Or.inl result
  | cons first others inductionHypothesis =>
      rcases inductionHypothesis result with chosen | later
      · rcases chooses best first with same | isFirst
        · exact Or.inl (same.symm.trans chosen)
        · obtain rfl := Option.some_inj.mp (isFirst.symm.trans chosen)
          exact Or.inr List.mem_cons_self
      · exact Or.inr (List.mem_cons_of_mem _ later)

/-- The longest symbol is one that the text starts with. -/
theorem mem_of_longestSymbol?
    {entry : String × Ending}
    (longest : longestSymbol? dialect text = some entry) :
    entry ∈ symbols dialect ∧ entry.1.toList.isPrefixOf text = true := by
  have found := mem_of_foldl_choice longest fun best next => by
    split
    · split
      · exact Or.inr rfl
      · exact Or.inl rfl
    · exact Or.inr rfl
  exact List.mem_filter.mp (found.resolve_left (Option.some_ne_none entry).symm)

/-- The longest symbol of a respaced text. -/
theorem longestSymbol?_respaced
    (related : Respaced dialect trims text respaced) :
    longestSymbol? dialect respaced = longestSymbol? dialect text := by
  unfold longestSymbol?
  rw [List.filter_congr fun entry present =>
    isPrefixOf_respaced (fun _ inside => isBlank_of_mem_symbol present inside) related]

theorem extendsOperator_of_isBlank
    {character : Char}
    (blank : isBlank character = true) : dialect.extendsOperator character = false := by
  have other : "+-*/<>=~!@#%^&|\x60?".toList.contains character = false :=
    eq_false_of_isBlank _ (by decide) blank
  rw [Dialect.extendsOperator, other, Bool.and_false]

/-- Operators and marks. -/
theorem follows_scanSymbol
    {first : Char}
    (notBlank : isBlank first = false)
    (related : Respaced dialect trims rest respaced) :
    Follows dialect trims (scanSymbol dialect (first :: rest))
      (scanSymbol dialect (first :: respaced)) := by
  have whole := Respaced.letter notBlank related
  unfold scanSymbol
  rw [longestSymbol?_respaced whole]
  cases longest : longestSymbol? dialect (first :: rest) with
  | none => exact Follows.of_some related
  | some entry =>
      obtain ⟨symbol, ending⟩ := entry
      obtain ⟨present, starts⟩ := mem_of_longestSymbol? longest
      have behind := respaced_drop_prefix
        (fun _ inside => isBlank_of_mem_symbol present inside) starts whole
      rw [String.length_toList] at behind
      obtain ⟨sameMore, left⟩ := behind.span fun _ divides =>
        extendsOperator_of_isBlank (Dialect.isBlank_of_divides divides)
      dsimp only
      split
      · exact Follows.of_some behind
      · rw [drop_length_takeWhile, drop_length_takeWhile, sameMore]
        split
        · exact Follows.of_some left
        · split
          · exact Follows.of_some behind
          · exact Follows.of_none

/-- A word whose text is its own line has no blank but a space in its start. -/
theorem isBlank_of_scanWord
    (start : List Char)
    {whole behind : List Char}
    {next : Char}
    {token : Token}
    (found : scanWord dialect (start ++ [next]) rest = some (token, behind))
    (split : start ++ next :: rest = whole ++ behind)
    (same : line whole = whole)
    (notSpace : next ≠ ' ') : isBlank next = false := by
  rw [scanWord, Option.some_inj, Prod.mk.injEq] at found
  have taken : start ++ next :: rest =
      (start ++ next :: rest.takeWhile dialect.continuesName) ++ behind := by
    rw [← found.2, List.append_assoc, List.cons_append, List.takeWhile_append_dropWhile]
  have wholeEqual := List.append_cancel_right (split.symm.trans taken)
  rw [← Bool.not_eq_true]
  intro blank
  exact notSpace (eq_space_of_mem same (by simp [wholeEqual]) blank)

/-- Two signs in front of a name, or alone. -/
theorem followsLine_scanSign_double
    (related : Respaced dialect trims rest respaced) :
    FollowsLine dialect trims ('@' :: '@' :: rest) (scanSign dialect ('@' :: '@' :: rest))
      (scanSign dialect ('@' :: '@' :: respaced)) := by
  have alone : scanSign dialect ['@', '@'] = Scan.ofSymbol "@@" [] := by
    cases dialect <;> rfl
  have apart (next : Char) (rest : List Char)
      (refused : (dialect.startsName '@' && next != ' ') = false) :
      scanSign dialect ('@' :: '@' :: next :: rest) = Scan.ofSymbol "@@" (next :: rest) := by
    rw [scanSign, refused]
    rfl
  intro token behind found whole split same
  cases rest with
  | nil =>
      rw [related.eq_nil]
      rw [alone] at found ⊢
      exact Follows.of_some Respaced.nil token behind found
  | cons next rest =>
      by_cases named : (dialect.startsName '@' && next != ' ') = true
      · rw [scanSign, if_pos named] at found
        rw [Bool.and_eq_true, bne_iff_ne] at named
        have letter := isBlank_of_scanWord ['@', '@'] found split same named.2
        obtain ⟨others, rfl, othersRelated⟩ := related.exists_of_letter letter
        rw [scanSign, if_pos (by simpa using named)]
        exact follows_scanWord _ othersRelated token behind found
      · rw [Bool.not_eq_true] at named
        rw [apart next rest named] at found
        obtain ⟨rfl, rfl⟩ := Prod.mk.inj (Option.some_inj.mp found)
        cases respaced with
        | nil => exact ⟨[], alone, related⟩
        | cons other others =>
            refine ⟨other :: others, apart other others ?_, related⟩
            rcases Bool.and_eq_false_iff.mp named with noName | space
            · rw [noName, Bool.false_and]
            · rw [bne_eq_false_iff_eq] at space
              subst space
              rcases related.start_cases with ⟨_, _, _, letter, equal, _⟩ | ⟨_, first⟩
              · obtain ⟨rfl, _⟩ := List.cons.inj equal
                exact nomatch letter
              · rw [first other rfl]
                simp

/-- One sign in front of a name, where no character of `stops` follows, or an operator. -/
def scanSigned
    (dialect : Dialect)
    (sign : Char)
    (stops : List Char) : List Char → Scan
  | [] => scanSymbol dialect [sign]
  | next :: rest =>
      if dialect.startsName sign && !stops.contains next then scanWord dialect [sign, next] rest
      else scanSymbol dialect (sign :: next :: rest)

/-- One sign, if a space ends a name behind it. -/
theorem followsLine_scanSigned
    {sign : Char}
    {stops : List Char}
    (notBlank : isBlank sign = false)
    (space : stops.contains ' ' = true)
    (related : Respaced dialect trims rest respaced) :
    FollowsLine dialect trims (sign :: rest) (scanSigned dialect sign stops rest)
      (scanSigned dialect sign stops respaced) := by
  have symbol (text : List Char)
      (refused : ∀ next ∈ text.head?,
        (dialect.startsName sign && !stops.contains next) = false) :
      scanSigned dialect sign stops text = scanSymbol dialect (sign :: text) := by
    cases text with
    | nil => rfl
    | cons next others =>
        rw [scanSigned, refused next rfl]
        rfl
  intro token behind found whole split same
  by_cases refused : ∀ next ∈ rest.head?,
      (dialect.startsName sign && !stops.contains next) = false
  · have refusedRespaced : ∀ next ∈ respaced.head?,
        (dialect.startsName sign && !stops.contains next) = false := by
      intro next first
      by_cases isSpace : next = ' '
      · rw [isSpace, space, Bool.not_true, Bool.and_false]
      · exact refused next (related.head?_eq first isSpace)
    rw [symbol rest refused] at found
    rw [symbol respaced refusedRespaced]
    exact follows_scanSymbol notBlank related token behind found
  · cases rest with
    | nil => exact absurd (by simp) refused
    | cons next rest =>
        have named : (dialect.startsName sign && !stops.contains next) = true := by
          simpa using refused
        rw [scanSigned, if_pos named] at found
        have notSpace : next ≠ ' ' := by
          rintro rfl
          rw [space, Bool.not_true, Bool.and_false] at named
          exact nomatch named
        have letter := isBlank_of_scanWord [sign] found split same notSpace
        obtain ⟨others, rfl, othersRelated⟩ := related.exists_of_letter letter
        rw [scanSigned, if_pos named]
        exact follows_scanWord _ othersRelated token behind found

/-- The sign in front of a name that ends with its session. -/
theorem scanSign_hash
    (text : List Char) :
    scanSign dialect ('#' :: text) = scanSigned dialect '#' " ->".toList text := by
  cases text <;> rfl

/-- The sign in front of a variable, if it is not doubled. -/
theorem scanSign_single
    {text : List Char}
    (notDouble : text.head? ≠ some '@') :
    scanSign dialect ('@' :: text) = scanSigned dialect '@' " >?@\"\x27\x60".toList text := by
  cases text with
  | nil => rfl
  | cons next others =>
      rw [scanSign]
      · rfl
      · rintro _ _ rfl _
        exact notDouble rfl

/-- Signs. -/
theorem followsLine_scanSign
    {sign : Char}
    (isSign : sign = '@' ∨ sign = '#')
    (related : Respaced dialect trims rest respaced) :
    FollowsLine dialect trims (sign :: rest) (scanSign dialect (sign :: rest))
      (scanSign dialect (sign :: respaced)) := by
  rcases isSign with rfl | rfl
  · by_cases double : rest.head? = some '@'
    · cases rest with
      | nil => exact nomatch double
      | cons next rest =>
          obtain rfl := Option.some_inj.mp double
          obtain ⟨others, rfl, othersRelated⟩ := related.exists_of_letter rfl
          exact followsLine_scanSign_double othersRelated
    · have doubleRespaced : respaced.head? ≠ some '@' := fun first =>
        double (related.head?_eq first (by decide))
      rw [scanSign_single double, scanSign_single doubleRespaced]
      exact followsLine_scanSigned rfl (by decide) related
  · rw [scanSign_hash, scanSign_hash]
    exact followsLine_scanSigned rfl (by decide) related

/-- What a scan leaves is an end of the text. -/
def Leaves
    (text : List Char)
    (scan : Scan) : Prop :=
  ∀ token behind, scan = some (token, behind) → behind <:+ text

theorem Leaves.of_some
    {token : Token}
    {behind : List Char}
    (suffix : behind <:+ text) : Leaves text (some (token, behind)) := by
  rintro _ _ ⟨⟩
  exact suffix

theorem Leaves.trans
    {scan : Scan}
    (leaves : Leaves rest scan)
    (suffix : rest <:+ text) : Leaves text scan :=
  fun token behind found => (leaves token behind found).trans suffix

/-- A scan that branches on a condition. -/
theorem Leaves.ite
    {condition : Prop}
    [Decidable condition]
    {yes no : Scan}
    (whenTrue : condition → Leaves text yes)
    (whenFalse : ¬ condition → Leaves text no) :
    Leaves text (if condition then yes else no) := by
  by_cases holds : condition
  · rw [if_pos holds]
    exact whenTrue holds
  · rw [if_neg holds]
    exact whenFalse holds

theorem leaves_scanWord
    (start rest : List Char) : Leaves rest (scanWord dialect start rest) :=
  Leaves.of_some (List.dropWhile_suffix _)

/-- What a run of digits leaves is an end of the text. -/
theorem digitRun_suffix
    (isDigit : Char → Bool)
    (underscores : Bool)
    (text : List Char) : (digitRun isDigit underscores text).2 <:+ text := by
  induction text with
  | nil => exact List.suffix_refl []
  | cons character rest inductionHypothesis =>
      rw [digitRun]
      split
      · exact inductionHypothesis.trans (List.suffix_cons character rest)
      · exact List.suffix_refl _

/-- What an exponent leaves is an end of the text. -/
theorem exponent_suffix
    {text power behind : List Char}
    (found : exponent text = .present power behind) : behind <:+ text := by
  cases text with
  | nil => exact nomatch found
  | cons mark rest =>
      rw [exponent_cons] at found
      dsimp only at found
      split at found
      · split at found
        · obtain ⟨_, rfl⟩ := Exponent.present.inj found
          exact ((List.dropWhile_suffix _).trans (List.drop_suffix _ _)).trans
            (List.suffix_cons mark rest)
        · exact nomatch found
      · exact nomatch found

theorem leaves_ofDigits
    (digits rest : List Char) : Leaves rest (ofDigits digits rest) := by
  apply Leaves.of_some
  split
  · exact List.drop_suffix 1 rest
  · exact List.suffix_refl rest

/-- Numbers behind their fraction. -/
theorem leaves_scanPower
    (previous : Option Token)
    (digits rest : List Char) : Leaves rest (scanPower dialect previous digits rest) := by
  unfold scanPower
  split
  · dsimp only
    split
    · exact Leaves.of_some (List.drop_suffix _ _)
    · exact leaves_ofDigits digits rest
  · dsimp only
    split
    · exact Leaves.of_some (List.suffix_refl rest)
    · exact leaves_ofDigits digits rest
  · next power behind found =>
      have suffix := exponent_suffix found
      dsimp only
      split
      · exact Leaves.of_some suffix
      · exact (leaves_ofDigits _ behind).trans suffix

/-- Numbers take at least one character. -/
theorem leaves_scanNumber
    {first : Char}
    (previous : Option Token)
    (rest : List Char)
    (starts : (first.isDigit || first == '.') = true) :
    Leaves rest (scanNumber dialect previous (first :: rest)) := by
  by_cases ordinary : ∀ others, first :: rest ≠ '.' :: '_' :: others
  · rw [scanNumber_eq previous ordinary]
    dsimp only
    generalize (dialect == Dialect.postgresql) = underscores
    generalize wholeEqual : digitRun Char.isDigit underscores (first :: rest) = whole
    have cases : whole.2 <:+ rest ∨ whole = ([], '.' :: rest) := by
      rw [← wholeEqual, digitRun]
      split
      · exact Or.inl (digitRun_suffix _ _ rest)
      · next notDigit =>
          rw [Bool.not_eq_true, Bool.or_eq_false_iff] at notDigit
          rw [notDigit.1, Bool.false_or, beq_iff_eq] at starts
          exact Or.inr (by rw [starts])
    have behindPoint :
        (if (whole.2.head? == some '.') = true then whole.2.drop 1 else whole.2) <:+ rest := by
      rcases cases with suffix | rfl
      · split
        · exact (List.drop_suffix 1 _).trans suffix
        · exact suffix
      · exact List.suffix_refl rest
    generalize (if (whole.2.head? == some '.') = true then whole.2.drop 1 else whole.2) = left
      at behindPoint ⊢
    generalize whole.1 ++ (if (whole.2.head? == some '.') = true then ['.'] else []) = digits
    split
    · next hexadecimal =>
        rcases cases with suffix | rfl
        · exact Leaves.of_some
            ((digitRun_suffix _ _ _).trans ((List.drop_suffix 1 _).trans suffix))
        · exact nomatch hexadecimal
    · split
      · exact Leaves.of_some behindPoint
      · split
        · exact Leaves.of_some behindPoint
        · exact (leaves_scanPower previous _ _).trans
            ((digitRun_suffix _ _ left).trans behindPoint)
  · obtain ⟨others, equal⟩ := Classical.not_forall.mp ordinary
    obtain ⟨rfl, rfl⟩ := List.cons.inj (Classical.not_not.mp equal)
    simp only [scanNumber]
    split
    · exact Leaves.of_some (List.suffix_refl _)
    · exact fun _ _ found => nomatch found

/-- Operators and marks take at least one character. -/
theorem leaves_scanSymbol
    (first : Char)
    (rest : List Char) : Leaves rest (scanSymbol dialect (first :: rest)) := by
  unfold scanSymbol
  split
  · next symbol ending longest =>
      have present := (mem_of_longestSymbol? longest).1
      have something : symbol.length ≠ 0 := by
        have none : ∀ entry ∈ symbols dialect, entry.1.length ≠ 0 := by
          cases dialect <;> decide
        exact none _ present
      obtain ⟨count, equal⟩ := Nat.exists_eq_add_one_of_ne_zero something
      have suffix : (first :: rest).drop symbol.length <:+ rest := by
        rw [equal, List.drop_succ_cons]
        exact List.drop_suffix count rest
      dsimp only
      split
      · exact Leaves.of_some suffix
      · split
        · exact Leaves.of_some ((List.drop_suffix _ _).trans suffix)
        · split
          · exact Leaves.of_some suffix
          · exact fun _ _ found => nomatch found
  · exact Leaves.of_some (List.suffix_refl rest)

/-- Signs take at least one character. -/
theorem leaves_scanSign
    (first : Char)
    (rest : List Char) : Leaves rest (scanSign dialect (first :: rest)) := by
  generalize whole : first :: rest = text
  unfold scanSign
  split
  · next next others =>
      obtain ⟨rfl, rfl⟩ := List.cons.inj whole
      split
      · exact (leaves_scanWord _ others).trans ⟨['@', next], rfl⟩
      · exact Leaves.of_some ⟨['@'], rfl⟩
  · next next others _ =>
      obtain ⟨rfl, rfl⟩ := List.cons.inj whole
      split
      · exact (leaves_scanWord _ others).trans ⟨[next], rfl⟩
      · exact leaves_scanSymbol _ _
  · next next others =>
      obtain ⟨rfl, rfl⟩ := List.cons.inj whole
      split
      · exact (leaves_scanWord _ others).trans ⟨[next], rfl⟩
      · exact leaves_scanSymbol _ _
  · rw [← whole]
    exact leaves_scanSymbol first rest

end Lexer
end Sql
end TableReach
