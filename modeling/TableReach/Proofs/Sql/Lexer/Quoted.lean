import TableReach.Proofs.Text.Search
import TableReach.Proofs.Sql.Lexer.Unquoted

/-!
# Quoted texts in respaced texts

Where a quoted text ends depends on the quoted text alone and on whether another
quote follows.  So it is the same in a respaced text, provided that its own blanks
are single spaces.
-/

namespace TableReach
namespace Sql
namespace Lexer

open Text

variable
  {α : Type}
  {dialect : Dialect}
  {trims : Bool}
  {text rest respaced : List Char}

/-- What is read of a text depends on what is taken, and on whether the character `stop` follows. -/
def LocalAt
    (stop : Char)
    (read : List Char → Option (α × List Char))
    (text : List Char) : Prop :=
  ∀ value behind, read text = some (value, behind) →
    ∃ whole, text = whole ++ behind ∧
      ∀ left, (left.head? = some stop → behind.head? = some stop) →
        read (whole ++ left) = some (value, left)

/-- What is read is local in every text. -/
def Local
    (stop : Char)
    (read : List Char → Option (α × List Char)) : Prop :=
  ∀ text, LocalAt stop read text

/-- A reader that takes a start and goes on with another one is local where the other one is. -/
theorem LocalAt.append
    {β : Type}
    {stop : Char}
    {read : List Char → Option (α × List Char)}
    {inner : List Char → Option (β × List Char)}
    (start : List Char)
    (convert : β → α)
    (step : ∀ text, read (start ++ text) = (inner text).map fun parts => (convert parts.1, parts.2))
    (isLocal : LocalAt stop inner text) : LocalAt stop read (start ++ text) := by
  intro value behind found
  rw [step] at found
  obtain ⟨parts, foundInner, equal⟩ := Option.map_eq_some_iff.mp found
  obtain ⟨rfl, rfl⟩ := Prod.mk.inj equal
  obtain ⟨whole, rfl, elsewhere⟩ := isLocal parts.1 parts.2 foundInner
  refine ⟨start ++ whole, by rw [List.append_assoc], ?_⟩
  intro left compatible
  rw [List.append_assoc, step, elsewhere left compatible]
  rfl

theorem LocalAt.of_none
    {stop : Char}
    {read : List Char → Option (α × List Char)}
    (nothing : read text = none) : LocalAt stop read text := by
  intro value behind found
  rw [nothing] at found
  exact nomatch found

/-- A local reader finds the same token in a respaced text, if the text of the token is its own
line. -/
theorem Local.followsLine
    {stop : Char}
    {read : List Char → Option (α × List Char)}
    (isLocal : Local stop read)
    (notSpace : stop ≠ ' ')
    (token : α → Token)
    (opening : List Char)
    (related : Respaced dialect trims rest respaced) :
    FollowsLine dialect trims (opening ++ rest)
      ((read rest).map fun parts => (token parts.1, parts.2))
      ((read respaced).map fun parts => (token parts.1, parts.2)) := by
  intro found behind foundEqual start split same
  obtain ⟨parts, readEqual, equal⟩ := Option.map_eq_some_iff.mp foundEqual
  obtain ⟨rfl, rfl⟩ := Prod.mk.inj equal
  obtain ⟨whole, rfl, elsewhere⟩ := isLocal rest parts.1 parts.2 readEqual
  rw [← List.append_assoc] at split
  have startEqual := List.append_cancel_right split
  rw [← startEqual] at same
  obtain ⟨left, rfl, leftRelated⟩ := related.exists_of_append (line_of_append same)
  refine ⟨left, ?_, leftRelated⟩
  rw [elsewhere left fun first => leftRelated.head?_eq first notSpace]
  rfl

section

variable
  (close : Char)
  (escapes : Escapes)

theorem quotedText?_double (behind : List Char) :
    quotedText? close escapes (close :: close :: behind) =
      (quotedText? close escapes behind).map fun parts => (close :: parts.1, parts.2) := by
  simp [quotedText?]

/-- A quote that is not doubled ends the text. -/
theorem quotedText?_close
    {rest : List Char}
    (single : rest.head? ≠ some close) :
    quotedText? close escapes (close :: rest) = some ([], rest) := by
  cases rest with
  | nil => simp [quotedText?]
  | cons next behind =>
      have other : next ≠ close := by
        simpa using single
      simp [quotedText?, other]

theorem quotedText?_escape
    {character : Char}
    (next : Char)
    (behind : List Char)
    (other : character ≠ close)
    (escape : (character == '\\' && escapes != .none) = true) :
    quotedText? close escapes (character :: next :: behind) =
      (quotedText? close escapes behind).map fun parts =>
        (escaped escapes next ++ parts.1, parts.2) := by
  rw [quotedText?, if_neg (by simpa using other), if_pos escape]

theorem quotedText?_character
    {character : Char}
    (rest : List Char)
    (other : character ≠ close)
    (plain : (character == '\\' && escapes != .none) = false) :
    quotedText? close escapes (character :: rest) =
      (quotedText? close escapes rest).map fun parts => (character :: parts.1, parts.2) := by
  rw [quotedText?.eq_def]
  dsimp only
  rw [if_neg (by simpa using other), plain]
  rfl

/-- The end of a quoted text. -/
theorem localAt_close
    {rest : List Char}
    (single : rest.head? ≠ some close) :
    LocalAt close (quotedText? close escapes) (close :: rest) := by
  intro value behind found
  rw [quotedText?_close close escapes single] at found
  obtain ⟨rfl, rfl⟩ := Prod.mk.inj (Option.some_inj.mp found)
  refine ⟨[close], rfl, ?_⟩
  intro left compatible
  exact quotedText?_close close escapes fun first => single (compatible first)

/-- Quoted texts. -/
theorem local_quotedText? : Local close (quotedText? close escapes) := by
  intro text
  induction text using quotedText?.induct close escapes with
  | case1 => exact LocalAt.of_none rfl
  | case2 character isClose next behind isNext inductionHypothesis =>
      obtain rfl := beq_iff_eq.mp isClose
      obtain rfl := beq_iff_eq.mp isNext
      exact LocalAt.append [next, next] (next :: ·) (quotedText?_double next escapes)
        inductionHypothesis
  | case3 character isClose next behind other =>
      obtain rfl := beq_iff_eq.mp isClose
      exact localAt_close character escapes (by simpa using other)
  | case4 character isClose =>
      obtain rfl := beq_iff_eq.mp isClose
      exact localAt_close character escapes (by simp)
  | case5 character other escape next behind inductionHypothesis =>
      exact LocalAt.append [character, next] (escaped escapes next ++ ·)
        (fun text => quotedText?_escape close escapes next text (by simpa using other) escape)
        inductionHypothesis
  | case6 character other escape =>
      apply LocalAt.of_none
      rw [quotedText?, if_neg other, if_pos escape]
  | case7 character rest other plain inductionHypothesis =>
      exact LocalAt.append [character] (character :: ·)
        (fun text => quotedText?_character close escapes text (by simpa using other)
          (by simpa using plain))
        inductionHypothesis

theorem localAt_splitAtMark?
    {mark : List Char}
    (something : mark ≠ [])
    (text : List Char) : LocalAt close (splitAtMark? mark) text := by
  intro inside behind found
  obtain ⟨split, elsewhere⟩ := splitAtMark?_append something found
  exact ⟨inside ++ mark, split, fun left _ => elsewhere left⟩

/-- Strings without escapes. -/
theorem local_afterRaw? (quote : Char) :
    Local quote fun text => (afterRaw? quote text).map fun behind => ((), behind) := by
  intro text
  cases text with
  | nil => exact LocalAt.of_none (by simp [afterRaw?, quotedText?])
  | cons first rest =>
      by_cases opens : first = quote
      · subst opens
        by_cases triple : rest.head? = some first
        · obtain ⟨second, body, rfl⟩ := List.exists_cons_of_ne_nil
            (show rest ≠ [] by rintro rfl; exact nomatch triple)
          obtain rfl := Option.some_inj.mp triple
          refine LocalAt.append [second, second] (fun _ => ()) ?_
            (localAt_splitAtMark? second (List.cons_ne_nil second [second, second]) body)
          intro text
          simp [afterRaw?, Function.comp_def]
        · intro value behind found
          have two (rest : List Char) (single : rest.head? ≠ some first) :
              afterRaw? first (first :: rest) = some rest := by
            cases rest with
            | nil => simp [afterRaw?]
            | cons next others =>
                have other : next ≠ first := by
                  simpa using single
                simp [afterRaw?, other]
          simp only [two rest triple, Option.map_some] at found
          obtain ⟨_, rfl⟩ := Prod.mk.inj (Option.some_inj.mp found)
          refine ⟨[first], rfl, ?_⟩
          intro left compatible
          simp only [List.singleton_append, two left fun next => triple (compatible next),
            Option.map_some]
      · refine LocalAt.append [first] (fun _ => ()) ?_ (local_quotedText? quote .none rest)
        intro text
        simp [afterRaw?, opens, quotedText?_character quote .none text opens, Function.comp_def]

end

/-- A bounded number of digits depends on the digits alone, and on what follows them. -/
theorem takeWhile_take
    (isDigit : Char → Bool)
    (count : Nat)
    (rest : List Char) :
    let digits := (rest.take count).takeWhile isDigit
    rest = digits ++ rest.drop digits.length ∧
      ∀ left, left.head? = (rest.drop digits.length).head? →
        ((digits ++ left).take count).takeWhile isDigit = digits := by
  induction count generalizing rest with
  | zero => simp
  | succ count inductionHypothesis =>
      cases rest with
      | nil => simp
      | cons first rest =>
          by_cases isFirst : isDigit first = true
          · obtain ⟨split, elsewhere⟩ := inductionHypothesis rest
            simp only [List.take_succ_cons, List.takeWhile_cons_of_pos isFirst, List.length_cons,
              List.drop_succ_cons, List.cons_append]
            exact ⟨congrArg (first :: ·) split, fun left same =>
              congrArg (first :: ·) (elsewhere left same)⟩
          · simp only [List.take_succ_cons, List.takeWhile_cons_of_neg isFirst, List.length_nil,
              List.drop_zero, List.nil_append, true_and]
            intro left same
            cases left with
            | nil => exact nomatch same
            | cons other others =>
                obtain rfl := Option.some_inj.mp same
                rw [List.take_succ_cons, List.takeWhile_cons_of_neg isFirst]

/-- An exact number of digits depends on the digits alone. -/
theorem hexDigits?_append
    {signed : Bool}
    {count value : Nat}
    {behind : List Char}
    (found : hexDigits? signed count text = some (value, behind)) :
    ∃ whole, text = whole ++ behind ∧
      ∀ left, hexDigits? signed count (whole ++ left) = some (value, left) := by
  unfold hexDigits? at found
  dsimp only at found
  generalize unsignedEqual : (if (signed && (text.take count).head? == some '+') = true then
    (text.take count).drop 1 else text.take count) = unsigned at found
  split at found
  · next digits =>
      obtain ⟨rfl, rfl⟩ := Prod.mk.inj (Option.some_inj.mp found)
      refine ⟨text.take count, (List.take_append_drop count text).symm, ?_⟩
      intro left
      have complete : (text.take count).length = count := by
        simpa using (Bool.and_eq_true_iff.mp digits).1
      unfold hexDigits?
      dsimp only
      rw [List.take_left' complete, List.drop_left' complete, unsignedEqual, if_pos digits]
  · exact nomatch found

/-- The character of a byte does not depend on what follows. -/
theorem ofByte?_eq_some
    {number : Nat}
    {character : Char}
    {behind : List Char}
    (found : escape?.ofByte? number rest = some (character, behind)) :
    behind = rest ∧ ∀ left, escape?.ofByte? number left = some (character, left) := by
  unfold escape?.ofByte? at found
  split at found
  · next small =>
      obtain ⟨rfl, rfl⟩ := Prod.mk.inj (Option.some_inj.mp found)
      refine ⟨rfl, fun left => ?_⟩
      rw [escape?.ofByte?, if_pos small]
  · exact nomatch found

/-- An escape takes a start of the text, and is read the same before the same next character. -/
def EscapeTakes
    (escape : List Char → Option (Char × List Char))
    (text : List Char)
    (character : Char)
    (behind : List Char) : Prop :=
  ∃ whole, text = whole ++ behind ∧
    ∀ left, left.head? = behind.head? → escape (whole ++ left) = some (character, left)

section

variable
  {escape : List Char → Option (Char × List Char)}
  {character mark : Char}
  {behind : List Char}

theorem escapeTakes_of_mark
    {value : Char}
    (reads : ∀ rest, escape (mark :: rest) = some (value, rest))
    (found : escape (mark :: rest) = some (character, behind)) :
    EscapeTakes escape (mark :: rest) character behind := by
  rw [reads] at found
  obtain ⟨rfl, rfl⟩ := Prod.mk.inj (Option.some_inj.mp found)
  exact ⟨[mark], rfl, fun left _ => reads left⟩

/-- The character of an exact number of digits depends on the digits alone. -/
theorem ofDigits?_append
    {signed : Bool}
    {count : Nat}
    (found : escape?.ofDigits? (hexDigits? signed count text) = some (character, behind)) :
    ∃ whole, text = whole ++ behind ∧
      ∀ left, escape?.ofDigits? (hexDigits? signed count (whole ++ left)) =
        some (character, left) := by
  cases digits : hexDigits? signed count text with
  | none =>
      rw [digits] at found
      exact nomatch found
  | some parts =>
      obtain ⟨code, after⟩ := parts
      rw [digits] at found
      obtain ⟨_, isCode, equal⟩ := Option.map_eq_some_iff.mp found
      obtain ⟨rfl, rfl⟩ := Prod.mk.inj equal
      obtain ⟨whole, rfl, elsewhere⟩ := hexDigits?_append digits
      refine ⟨whole, rfl, fun left => ?_⟩
      rw [elsewhere, escape?.ofDigits?, isCode]
      rfl

theorem escapeTakes_of_digits
    {signed : Bool}
    {count : Nat}
    (reads : ∀ rest, escape (mark :: rest) = escape?.ofDigits? (hexDigits? signed count rest))
    (found : escape (mark :: rest) = some (character, behind)) :
    EscapeTakes escape (mark :: rest) character behind := by
  rw [reads] at found
  obtain ⟨whole, rfl, elsewhere⟩ := ofDigits?_append found
  refine ⟨mark :: whole, rfl, fun left _ => ?_⟩
  rw [List.cons_append, reads, elsewhere]

/-- A mark and at most two digits that give a byte. -/
theorem escapeTakes_of_byte
    (isDigit : Char → Bool)
    (applies : List Char → Prop)
    (number : List Char → Nat)
    (reads : ∀ rest, applies ((rest.take 2).takeWhile isDigit) →
      escape (mark :: rest) =
        escape?.ofByte? (number ((rest.take 2).takeWhile isDigit))
          (rest.drop ((rest.take 2).takeWhile isDigit).length))
    (here : applies ((rest.take 2).takeWhile isDigit))
    (found : escape (mark :: rest) = some (character, behind)) :
    EscapeTakes escape (mark :: rest) character behind := by
  obtain ⟨split, elsewhere⟩ := takeWhile_take isDigit 2 rest
  rw [reads rest here] at found
  generalize (rest.take 2).takeWhile isDigit = digits at found split elsewhere here
  obtain ⟨rfl, again⟩ := ofByte?_eq_some found
  refine ⟨mark :: digits, congrArg (mark :: ·) split, ?_⟩
  intro left same
  have sameDigits := elsewhere left same
  rw [List.cons_append, reads _ (by rw [sameDigits]; exact here), sameDigits, List.drop_left]
  exact again left

/-- A mark without digits behind it stands for itself. -/
theorem escapeTakes_of_x
    (noDigits : (rest.take 2).takeWhile isHexDigit = [])
    (found : escape? ('x' :: rest) = some (character, behind)) :
    EscapeTakes escape? ('x' :: rest) character behind := by
  have itself (rest : List Char) (noDigits : (rest.take 2).takeWhile isHexDigit = []) :
      escape? ('x' :: rest) = some ('x', rest) := by
    rw [escape?, noDigits]
    rfl
  obtain ⟨_, elsewhere⟩ := takeWhile_take isHexDigit 2 rest
  rw [noDigits] at elsewhere
  rw [itself rest noDigits] at found
  obtain ⟨rfl, rfl⟩ := Prod.mk.inj (Option.some_inj.mp found)
  exact ⟨['x'], rfl, fun left same => itself left (elsewhere left same)⟩

/-- Escapes. -/
theorem escapeTakes
    (found : escape? text = some (character, behind)) :
    EscapeTakes escape? text character behind := by
  have whole := found
  unfold escape? at found
  split at found
  · exact nomatch found
  · exact escapeTakes_of_mark (fun _ => rfl) whole
  · exact escapeTakes_of_mark (fun _ => rfl) whole
  · exact escapeTakes_of_mark (fun _ => rfl) whole
  · exact escapeTakes_of_mark (fun _ => rfl) whole
  · exact escapeTakes_of_mark (fun _ => rfl) whole
  · exact escapeTakes_of_digits (fun _ => rfl) whole
  · exact escapeTakes_of_digits (fun _ => rfl) whole
  · next rest =>
      by_cases noDigits : (rest.take 2).takeWhile isHexDigit = []
      · exact escapeTakes_of_x noDigits whole
      · refine escapeTakes_of_byte isHexDigit (· ≠ []) hexNumber (fun rest some_ => ?_) noDigits
          whole
        rw [escape?, if_neg (by rw [List.isEmpty_iff]; exact some_)]
  · next first rest _ _ _ _ _ _ _ _ =>
      have other (text : List Char) :
          escape? (first :: text) =
            if isOctalDigit first then
              let digits := first :: (text.take 2).takeWhile isOctalDigit
              escape?.ofByte?
                (digits.foldl (fun value digit => 8 * value + (digit.toNat - 48)) 0)
                (text.drop (digits.length - 1))
            else some (first, text) := by
        rw [escape?] <;> assumption
      by_cases octal : isOctalDigit first = true
      · refine escapeTakes_of_byte isOctalDigit (fun _ => True)
          (fun digits => (first :: digits).foldl
            (fun value digit => 8 * value + (digit.toNat - 48)) 0) (fun rest _ => ?_) trivial whole
        rw [other, if_pos octal]
        rfl
      · have itself (rest : List Char) : escape? (first :: rest) = some (first, rest) := by
          rw [other, if_neg octal]
        exact escapeTakes_of_mark itself whole

/-- Escapes that stand for no character of code zero. -/
theorem printedEscapeTakes
    (found : printedEscape? text = some (character, behind)) :
    EscapeTakes printedEscape? text character behind := by
  obtain ⟨isEscape, printed⟩ := Option.filter_eq_some_iff.mp found
  obtain ⟨whole, split, elsewhere⟩ := escapeTakes isEscape
  refine ⟨whole, split, fun left same => ?_⟩
  rw [printedEscape?, elsewhere left same, Option.filter_some, if_pos printed]

/-- Code points. -/
theorem codePointTakes
    (found : codePoint? text = some (character, behind)) :
    EscapeTakes codePoint? text character behind := by
  have whole := found
  unfold codePoint? at found
  split at found
  · exact escapeTakes_of_mark (fun _ => rfl) whole
  · exact escapeTakes_of_digits (fun _ => rfl) whole
  · next notBackslash notPlus =>
      obtain ⟨digits, rfl, elsewhere⟩ := ofDigits?_append found
      cases digits with
      | nil => exact nomatch elsewhere []
      | cons digit digits =>
          refine ⟨digit :: digits, rfl, fun left _ => ?_⟩
          rw [List.cons_append, codePoint?, ← List.cons_append, elsewhere]
          · rintro _ equal
            obtain ⟨rfl, _⟩ := List.cons.inj equal
            exact notBackslash _ rfl
          · rintro _ equal
            obtain ⟨rfl, _⟩ := List.cons.inj equal
            exact notPlus _ rfl

end

/-- What a reader of strings with escapes takes is enough to read the same again, in as many steps
as characters are taken. -/
def Repeats
    (escape : List Char → Option (Char × List Char))
    (text value behind : List Char) : Prop :=
  ∃ whole, text = whole ++ behind ∧ whole ≠ [] ∧
    ∀ left count, whole.length ≤ count →
      (left.head? = some '\x27' → behind.head? = some '\x27') →
        textWith? escape count (whole ++ left) = some (value, left)

section

variable
  {escape : List Char → Option (Char × List Char)}

/-- A start that is read in one step, whatever follows it. -/
theorem Repeats.append
    {start value behind : List Char}
    {character : Char}
    (something : start ≠ [])
    (step : ∀ left count, left.head? = text.head? →
      textWith? escape (count + 1) (start ++ left) =
        (textWith? escape count left).map (withFirst character))
    (repeats : Repeats escape text value behind) :
    Repeats escape (start ++ text) (character :: value) behind := by
  obtain ⟨whole, rfl, wholeSomething, elsewhere⟩ := repeats
  refine ⟨start ++ whole, by rw [List.append_assoc], by simp [something], ?_⟩
  intro left count enough compatible
  rw [List.length_append] at enough
  have positive := List.length_pos_iff.mpr something
  obtain ⟨count, rfl⟩ := Nat.exists_eq_add_one_of_ne_zero (show count ≠ 0 by omega)
  obtain ⟨first, others, rfl⟩ := List.exists_cons_of_ne_nil wholeSomething
  rw [List.append_assoc, step (first :: others ++ left) count rfl,
    elsewhere left count (by omega) compatible]
  rfl

/-- Strings with escapes. -/
theorem repeats_textWith?
    (takes : ∀ {text character behind}, escape text = some (character, behind) →
      EscapeTakes escape text character behind)
    {limit : Nat}
    {value behind : List Char}
    (found : textWith? escape limit text = some (value, behind)) :
    Repeats escape text value behind := by
  induction limit, text using textWith?.induct escape generalizing value behind with
  | case1 => exact nomatch found
  | case2 => exact nomatch found
  | case3 limit rest doubled inductionHypothesis =>
      rw [textWith?, if_pos doubled] at found
      obtain ⟨parts, foundLater, equal⟩ := Option.map_eq_some_iff.mp found
      obtain ⟨rfl, rfl⟩ := Prod.mk.inj equal
      cases rest with
      | nil => exact nomatch doubled
      | cons next rest =>
          obtain rfl : next = '\x27' := by simpa using doubled
          exact Repeats.append (List.cons_ne_nil '\x27' ['\x27']) (fun _ _ _ => rfl)
            (inductionHypothesis foundLater)
  | case4 limit rest single =>
      rw [textWith?, if_neg single] at found
      obtain ⟨rfl, rfl⟩ := Prod.mk.inj (Option.some_inj.mp found)
      refine ⟨['\x27'], rfl, by simp, ?_⟩
      intro left count enough compatible
      obtain ⟨count, rfl⟩ := Nat.exists_eq_add_one_of_ne_zero (Nat.ne_of_gt enough)
      have singleLeft : ¬ (left.head? == some '\x27') = true := by
        rw [beq_iff_eq] at single ⊢
        exact fun first => single (compatible first)
      rw [List.singleton_append, textWith?, if_neg singleLeft]
  | case5 limit rest character after isEscape inductionHypothesis =>
      simp only [textWith?, isEscape] at found
      obtain ⟨parts, foundLater, equal⟩ := Option.map_eq_some_iff.mp found
      obtain ⟨rfl, rfl⟩ := Prod.mk.inj equal
      obtain ⟨whole, rfl, elsewhere⟩ := takes isEscape
      refine Repeats.append (List.cons_ne_nil '\\' whole) ?_ (inductionHypothesis foundLater)
      intro left count same
      simp only [List.cons_append, textWith?, elsewhere left same]
  | case6 limit rest none =>
      simp [textWith?, none] at found
  | case7 limit character rest notQuote notEscape inductionHypothesis =>
      rw [textWith?] at found
      · obtain ⟨parts, foundLater, equal⟩ := Option.map_eq_some_iff.mp found
        obtain ⟨rfl, rfl⟩ := Prod.mk.inj equal
        refine Repeats.append (List.cons_ne_nil character []) ?_ (inductionHypothesis foundLater)
        intro left count _
        rw [List.singleton_append, textWith?]
        · exact notQuote
        · exact notEscape
      · exact notQuote
      · exact notEscape

/-- Strings with escapes are local. -/
theorem local_textWith?
    (takes : ∀ {text character behind}, escape text = some (character, behind) →
      EscapeTakes escape text character behind) :
    Local '\x27' fun text => textWith? escape (text.length + 1) text := by
  intro text value behind found
  obtain ⟨whole, split, _, elsewhere⟩ := repeats_textWith? takes found
  refine ⟨whole, split, ?_⟩
  intro left compatible
  exact elsewhere left _ (by rw [List.length_append]; omega) compatible

end

theorem local_escapedText? : Local '\x27' fun text => escapedText? (text.length + 1) text :=
  local_textWith? printedEscapeTakes

theorem local_unicodeText? : Local '\x27' fun text => unicodeText? (text.length + 1) text :=
  local_textWith? codePointTakes

section

variable
  {nested : Bool}
  {before : Char}
  {depth : Nat}
  {content behind : List Char}

/-- A blank in a comment is no part of a mark. -/
theorem comment?_blank
    {blank : Char}
    (isBlank : isBlank blank = true)
    (rest : List Char) :
    comment? nested before depth (blank :: rest) =
      (comment? nested ' ' depth rest).map fun parts => (blank :: parts.1, parts.2) := by
  have notMark := eq_false_of_isBlank (fun character => character == '*' || character == '/')
    (by decide) isBlank
  rw [Bool.or_eq_false_iff] at notMark
  have unmarked : comment? nested blank depth rest = comment? nested ' ' depth rest := by
    cases rest <;> simp [comment?, notMark]
  rw [comment?]
  simp only [notMark, Bool.and_false, Bool.false_eq_true, if_false, unmarked]

/-- A character of a comment ends it, or goes on as the state it leaves says. -/
theorem comment?_cons
    (nested : Bool)
    (before : Char)
    (depth : Nat)
    (character : Char) :
    (before = '*' ∧ character = '/' ∧
        ∀ rest, comment? nested before depth (character :: rest) = some ([], rest)) ∨
      ∃ next nextDepth, (next = '*' → character = '*') ∧
        ∀ rest, comment? nested before depth (character :: rest) =
          (comment? nested next nextDepth rest).map fun parts =>
            (character :: parts.1, parts.2) := by
  by_cases closes : (before == '*' && character == '/') = true
  · by_cases last : depth ≤ 1
    · have marks := closes
      rw [Bool.and_eq_true, beq_iff_eq, beq_iff_eq] at marks
      exact Or.inl ⟨marks.1, marks.2, fun rest => by rw [comment?, if_pos closes, if_pos last]⟩
    · exact Or.inr ⟨' ', depth - 1, nofun, fun rest => by
        rw [comment?, if_pos closes, if_neg last]⟩
  · by_cases opens : (nested && before == '/' && character == '*') = true
    · exact Or.inr ⟨' ', depth + 1, nofun, fun rest => by
        rw [comment?, if_neg closes, if_pos opens]⟩
    · exact Or.inr ⟨character, depth, id, fun rest => by
        rw [comment?, if_neg closes, if_neg opens]⟩

/-- A comment is its content and the end of the last mark. -/
theorem comment?_append
    (found : comment? nested before depth text = some (content, behind)) :
    text = content ++ '/' :: behind := by
  induction text generalizing before depth content with
  | nil => exact nomatch found
  | cons character rest inductionHypothesis =>
      rcases comment?_cons nested before depth character with ⟨_, rfl, ends⟩ |
        ⟨next, nextDepth, _, goesOn⟩
      · rw [ends] at found
        obtain ⟨rfl, rfl⟩ := Prod.mk.inj (Option.some_inj.mp found)
        rfl
      · rw [goesOn] at found
        obtain ⟨parts, foundLater, equal⟩ := Option.map_eq_some_iff.mp found
        obtain ⟨rfl, rfl⟩ := Prod.mk.inj equal
        rw [inductionHypothesis foundLater]
        rfl

/-- The content of a comment ends with the start of the last mark. -/
theorem comment?_last
    (found : comment? nested before depth text = some (content, behind)) :
    (content = [] ∧ before = '*') ∨ ∃ body, content = body ++ ['*'] := by
  induction text generalizing before depth content with
  | nil => exact nomatch found
  | cons character rest inductionHypothesis =>
      rcases comment?_cons nested before depth character with ⟨isMark, _, ends⟩ |
        ⟨next, nextDepth, marked, goesOn⟩
      · rw [ends] at found
        obtain ⟨rfl, rfl⟩ := Prod.mk.inj (Option.some_inj.mp found)
        exact Or.inl ⟨rfl, isMark⟩
      · rw [goesOn] at found
        obtain ⟨parts, foundLater, equal⟩ := Option.map_eq_some_iff.mp found
        obtain ⟨rfl, rfl⟩ := Prod.mk.inj equal
        rcases inductionHypothesis foundLater with ⟨nothing, isMark⟩ | ⟨body, split⟩
        · exact Or.inr ⟨[], by rw [nothing, marked isMark]; rfl⟩
        · exact Or.inr ⟨character :: body, by rw [split]; rfl⟩

theorem startsBlank_content
    (found : comment? nested before depth text = some (content, behind)) :
    startsBlank content = startsBlank text := by
  rw [comment?_append found]
  cases content <;> rfl

/-- Comments: the content and what follows are respaced on their own. -/
theorem comment?_respaced
    (related : Respaced dialect trims text respaced)
    (found : comment? nested before depth text = some (content, behind)) :
    ∃ contentRespaced left,
      comment? nested before depth respaced = some (contentRespaced, left) ∧
        Respaced dialect false content contentRespaced ∧
        Respaced dialect trims behind left := by
  induction related generalizing before depth content with
  | nil => exact nomatch found
  | @letter character rest respaced notBlank others inductionHypothesis =>
      rcases comment?_cons nested before depth character with ⟨_, _, ends⟩ |
        ⟨next, nextDepth, _, goesOn⟩
      · rw [ends] at found
        obtain ⟨rfl, rfl⟩ := Prod.mk.inj (Option.some_inj.mp found)
        exact ⟨[], respaced, ends respaced, Respaced.nil, others⟩
      · rw [goesOn] at found
        obtain ⟨parts, foundLater, equal⟩ := Option.map_eq_some_iff.mp found
        obtain ⟨rfl, rfl⟩ := Prod.mk.inj equal
        obtain ⟨inside, left, foundRespaced, insideRelated, leftRelated⟩ :=
          inductionHypothesis foundLater
        exact ⟨character :: inside, left, by rw [goesOn, foundRespaced]; rfl,
          Respaced.letter notBlank insideRelated, leftRelated⟩
  | @space character rest respaced divides last others inductionHypothesis =>
      rw [comment?_blank (Dialect.isBlank_of_divides divides)] at found
      obtain ⟨parts, foundLater, equal⟩ := Option.map_eq_some_iff.mp found
      obtain ⟨rfl, rfl⟩ := Prod.mk.inj equal
      obtain ⟨inside, left, foundRespaced, insideRelated, leftRelated⟩ :=
        inductionHypothesis foundLater
      refine ⟨' ' :: inside, left, ?_, Respaced.space divides ?_ insideRelated, leftRelated⟩
      · rw [comment?_blank rfl, foundRespaced]
        rfl
      · rw [startsBlank_content foundLater, last]
  | @run character rest respaced divides more others inductionHypothesis =>
      rw [comment?_blank (Dialect.isBlank_of_divides divides)] at found
      obtain ⟨parts, foundLater, equal⟩ := Option.map_eq_some_iff.mp found
      obtain ⟨rfl, rfl⟩ := Prod.mk.inj equal
      obtain ⟨inside, left, foundRespaced, insideRelated, leftRelated⟩ :=
        inductionHypothesis foundLater
      refine ⟨inside, left, ?_, Respaced.run divides ?_ insideRelated, leftRelated⟩
      · rcases others.head?_of_startsBlank more with space | ⟨rfl, _⟩
        · cases respaced with
          | nil => exact nomatch space
          | cons first respaced =>
              obtain rfl := Option.some_inj.mp space
              rw [comment?_blank rfl] at foundRespaced ⊢
              exact foundRespaced
        · exact nomatch foundRespaced
      · rw [startsBlank_content foundLater, more]
  | ending divides =>
      rw [comment?_blank (Dialect.isBlank_of_divides divides)] at found
      exact nomatch found

end

end Lexer
end Sql
end TableReach
