import TableReach.Proofs.Template.Slack

/-!
# Rules take slack out

Every rule that leaves a joint out, or puts a condition in front of an exposed connective,
lowers the slack of the text it changes.  The two rules that put a `SELECT` in front keep
it, and give the text the start that they look for.
-/

namespace TableReach
namespace Template

open Text

section Reading

variable
  {text rest : List Char}

theorem atoms_of_afterKeyword?
    {word : List Char}
    (letters : word ≠ [] ∧ word.all Char.isUpper = true)
    (found : afterKeyword? word text = some rest)
    (ends : endsWord rest = true) :
    ∃ atom, atom.map fold = word ∧ atoms text = atom :: atoms rest := by
  obtain ⟨start, rfl, folded⟩ := afterKeyword?_eq_some_iff.mp found
  refine ⟨start, folded, ?_⟩
  rw [atoms_append (Or.inr ends), atoms_of_keyword letters.1 letters.2 folded, List.singleton_append]

theorem atoms_of_afterBlanks?
    (found : afterBlanks? text = some rest) : atoms text = atoms rest := by
  obtain ⟨character, others, blank, rfl, rfl⟩ := exists_of_afterBlanks? found
  rw [atoms_cons_of_isBlank others blank, atoms_trimLeft]

theorem atoms_of_afterKeywordAndBlanks?
    {word : List Char}
    (letters : word ≠ [] ∧ word.all Char.isUpper = true)
    (found : afterKeywordAndBlanks? word text = some rest) :
    ∃ atom, atom.map fold = word ∧ atoms text = atom :: atoms rest := by
  obtain ⟨next, behindWord, behindBlanks⟩ := Option.bind_eq_some_iff.mp found
  rw [← atoms_of_afterBlanks? behindBlanks]
  exact atoms_of_afterKeyword? letters behindWord (endsWord_of_afterBlanks? behindBlanks)

/-- The atom that a connective is. -/
theorem atoms_of_afterConnective?
    (found : afterConnective? text = some rest)
    (ends : endsWord rest = true) :
    ∃ atom, joint? atom = some .connective ∧ atoms text = atom :: atoms rest := by
  unfold afterConnective? at found
  split at found
  · next behindAnd =>
      obtain ⟨atom, folded, split⟩ :=
        atoms_of_afterKeyword? (by decide) (behindAnd.trans found) ends
      exact ⟨atom, joint?_of_connective (by rw [folded]; decide), split⟩
  · obtain ⟨atom, folded, split⟩ := atoms_of_afterKeyword? (by decide) found ends
    exact ⟨atom, joint?_of_connective (by rw [folded]; decide), split⟩

theorem atoms_of_connectiveAndBlanks
    {next : List Char}
    (found : afterConnective? text = some next)
    (behindBlanks : afterBlanks? next = some rest) :
    ∃ atom, joint? atom = some .connective ∧ atoms text = atom :: atoms rest := by
  rw [← atoms_of_afterBlanks? behindBlanks]
  exact atoms_of_afterConnective? found (endsWord_of_afterBlanks? behindBlanks)

theorem atoms_of_whereAndBlanks
    (found : afterKeywordAndBlanks? "WHERE".toList text = some rest) :
    ∃ atom, joint? atom = some .condition ∧ atoms text = atom :: atoms rest := by
  obtain ⟨atom, folded, split⟩ := atoms_of_afterKeywordAndBlanks? (by decide) found
  exact ⟨atom, joint?_of_where folded, split⟩

theorem atoms_of_atEnd?
    {done : Unit}
    (found : atEnd? (trimLeft text) = some done) : atoms text = [] := by
  rw [← atoms_trimLeft, eq_nil_of_atEnd? found]
  rfl

/-- A clause starts with one of the keywords. -/
theorem atoms_of_afterClause?
    (found : RepairRule.afterClause? text = some rest)
    (ends : endsWord rest = true) :
    ∃ atom others, atom.map fold ∈ clauseWords ∧ atoms text = atom :: others := by
  have two {first second : List Char}
      (letters : first ≠ [] ∧ first.all Char.isUpper = true)
      (known : first ∈ clauseWords)
      (found : (afterKeywordAndBlanks? first text).bind (afterKeyword? second) = some rest) :
      ∃ atom others, atom.map fold ∈ clauseWords ∧ atoms text = atom :: others := by
    obtain ⟨next, behindFirst, _⟩ := Option.bind_eq_some_iff.mp found
    obtain ⟨atom, folded, split⟩ := atoms_of_afterKeywordAndBlanks? letters behindFirst
    exact ⟨atom, _, folded ▸ known, split⟩
  have one {word : List Char}
      (letters : word ≠ [] ∧ word.all Char.isUpper = true)
      (known : word ∈ clauseWords)
      (found : afterKeyword? word text = some rest) :
      ∃ atom others, atom.map fold ∈ clauseWords ∧ atoms text = atom :: others := by
    obtain ⟨atom, folded, split⟩ := atoms_of_afterKeyword? letters found ends
    exact ⟨atom, _, folded ▸ known, split⟩
  simp only [RepairRule.afterClause?, Option.orElse_eq_orElse, Option.orElse_eq_or,
    Option.or_eq_some_iff] at found
  rcases found with order | ⟨_, group | ⟨_, having | ⟨_, limit⟩⟩⟩
  · exact two (by decide) (by decide) order
  · exact two (by decide) (by decide) group
  · exact one (by decide) (by decide) having
  · exact one (by decide) (by decide) limit

/-- The end of a list is the end of the text, `FROM`, `WHERE` or a closing bracket. -/
theorem atoms_of_afterListEnd?
    (found : RepairRule.afterListEnd? text = some rest) :
    atoms text = [] ∨ ∃ atom others, atoms text = atom :: others ∧
      (atom.map fold = "FROM".toList ∨ atom.map fold = "WHERE".toList ∨ atom = [')']) := by
  have clause {word : List Char}
      (letters : word ≠ [] ∧ word.all Char.isUpper = true)
      (found : ∃ next, afterKeyword? word text = some next ∧
        ∃ done, check? (endsWord next) = some done ∧ some next = some rest) :
      ∃ atom others, atoms text = atom :: others ∧ atom.map fold = word := by
    obtain ⟨next, behindWord, _, ends, _⟩ := found
    obtain ⟨atom, folded, split⟩ :=
      atoms_of_afterKeyword? letters behindWord (check?_eq_some_iff.mp ends)
    exact ⟨atom, _, split, folded⟩
  simp only [RepairRule.afterListEnd?, Option.bind_eq_bind, Option.orElse_eq_orElse,
    Option.orElse_eq_or, Option.or_eq_some_iff, Option.bind_eq_some_iff] at found
  rcases found with behindFrom | ⟨_, behindWhere | ⟨_, bracket | ⟨_, ending⟩⟩⟩
  · obtain ⟨atom, others, split, folded⟩ := clause (by decide) behindFrom
    exact Or.inr ⟨atom, others, split, Or.inl folded⟩
  · obtain ⟨atom, others, split, folded⟩ := clause (by decide) behindWhere
    exact Or.inr ⟨atom, others, split, Or.inr (Or.inl folded)⟩
  · refine Or.inr ⟨[')'], atoms rest, ?_, Or.inr (Or.inr rfl)⟩
    have alone : atoms [')'] = [[')']] := by decide
    have seam : IsSeam [')'] rest := Or.inl (by decide)
    rw [afterExact?_eq_some_iff.mp bracket, atoms_append seam, alone, List.singleton_append]
  · obtain ⟨_, ending, _⟩ := Option.map_eq_some_iff.mp ending
    rw [eq_nil_of_atEnd? ending]
    exact Or.inl rfl

end Reading

/-- Behind the keyword of a clause no more is exposed without a `WHERE` in front of it. -/
theorem Footing.holds_next_of_clause
    {clause : List Char}
    (footing : Footing)
    (known : clause.map fold ∈ clauseWords) :
    (footing.next clause).Holds ((footing.behind .condition).next clause) := by
  have noJoint : joint? clause = none := joint?_of_mem_clauseWords known
  have noFrom : clause.map fold ≠ "FROM".toList := ne_of_mem_of_not_mem known (by decide)
  have noMark : clause ∉ nameMarks := by
    intro mark
    have noWord : ∀ mark ∈ nameMarks, mark.map fold ∉ clauseWords := by decide
    exact noWord clause mark known
  have doubtfulNext : doubtful.next clause = named := by
    rw [next, if_neg noFrom, noJoint]
    simp [noMark, known]
  have namingNext : naming.next clause = firm ∨ naming.next clause = named := by
    rw [next, if_neg noFrom, noJoint]
    by_cases word : endsWord clause = false
    · exact Or.inr (by simp [noMark, word])
    · exact Or.inl (by simp [noMark, word])
  have otherNext {footing : Footing} (other : footing ≠ naming ∧ footing ≠ doubtful) :
      footing.next clause = firm := by
    rw [next, if_neg noFrom, noJoint]
    simp [noMark, other]
  cases footing with
  | naming =>
      change (naming.next clause).Holds (doubtful.next clause)
      rw [doubtfulNext]
      exact namingNext.imp_right Or.inl
  | doubtful => exact Or.inr (Or.inl rfl)
  | _ => exact Or.inl (otherNext (by decide))

/-- Without a connective at the front there is less slack. -/
theorem slackFrom_bare_connective
    {single : List Char}
    (isSingle : joint? single = some .connective)
    (rest : List (List Char)) :
    slackFrom .bare rest + 1 ≤ slackFrom .bare (single :: rest) := by
  have outside : Footing.bare.inName = false := rfl
  have less := slackFrom_le_of_inName outside rest
  have exposed : Footing.bare.exposes rest = true := rfl
  have behind : Footing.bare.behind .connective = .firm := rfl
  rw [slackFrom_of_connective _ _ isSingle, exposed, behind, if_pos rfl]
  omega

namespace Eases

variable
  {footing : Footing}
  {first second single : List Char}
  {rest : List (List Char)}

/-- A joint at the end may be left out. -/
theorem of_last
    {joint : Joint}
    (isJoint : joint? single = some joint) : Eases 1 footing [single] [] where
  isLoose_head := by
    intro other _
    simp [Joint.isLoose_cons _ isJoint]
  slack_add_le := by
    have here := one_le_excess footing isJoint joint.isLoose_nil
    simpa [slackFrom] using here

/-- Of two connectives one is enough. -/
theorem of_connectives
    (isFirst : joint? first = some .connective)
    (isSecond : joint? second = some .connective)
    (isSingle : joint? single = some .connective) :
    Eases 1 footing (first :: second :: rest) (single :: rest) where
  isLoose_head := by
    intro joint
    simp only [Joint.isLoose_cons _ isFirst, Joint.isLoose_cons _ isSecond,
      Joint.isLoose_cons _ isSingle]
    cases joint <;> simp [Joint.yields]
  slack_add_le := by
    have yields : Joint.connective.isLoose (second :: rest) = true :=
      Joint.isLoose_of_yields isSecond rfl rest
    have exposedLe : (if footing.exposes rest then 1 else 0) ≤
        if footing.exposes (second :: rest) then 1 else 0 :=
      ite_one_le_ite_one
        (Footing.exposes_of_isLoose (Joint.isLoose_of_yields isSecond rfl rest))
    rw [slackFrom_of_connective _ _ isFirst, slackFrom_of_connective _ _ isSecond,
      slackFrom_of_connective _ _ isSingle, Footing.behind_behind, if_pos yields]
    omega

/-- Of two `WHERE` one is enough. -/
theorem of_conditions
    (isFirst : joint? first = some .condition)
    (isSecond : joint? second = some .condition)
    (isSingle : joint? single = some .condition) :
    Eases 1 footing (first :: second :: rest) (single :: rest) where
  isLoose_head := by
    intro joint
    simp only [Joint.isLoose_cons _ isFirst, Joint.isLoose_cons _ isSecond,
      Joint.isLoose_cons _ isSingle]
    cases joint <;> simp [Joint.yields]
  slack_add_le := by
    have yields : Joint.condition.isLoose (second :: rest) = true :=
      Joint.isLoose_of_yields isSecond rfl rest
    rw [slackFrom_of_joint? _ _ isFirst (by decide), slackFrom_of_joint? _ _ isSecond (by decide),
      slackFrom_of_joint? _ _ isSingle (by decide), Footing.behind_behind, if_pos yields]
    omega

/-- A connective behind a `WHERE` may be left out. -/
theorem of_conditionAndConnective
    (isFirst : joint? first = some .condition)
    (isSecond : joint? second = some .connective)
    (isSingle : joint? single = some .condition) :
    Eases 1 footing (first :: second :: rest) (single :: rest) where
  isLoose_head := by
    intro joint
    simp only [Joint.isLoose_cons _ isFirst, Joint.isLoose_cons _ isSecond,
      Joint.isLoose_cons _ isSingle]
    cases joint <;> simp [Joint.yields]
  slack_add_le := by
    have yields : Joint.condition.isLoose (second :: rest) = true :=
      Joint.isLoose_of_yields isSecond rfl rest
    have looseLe : (if Joint.condition.isLoose rest then 1 else 0) ≤ 1 := by
      split <;> decide
    rw [slackFrom_of_joint? _ _ isFirst (by decide), slackFrom_of_connective _ _ isSecond,
      slackFrom_of_joint? _ _ isSingle (by decide), if_pos yields]
    by_cases name : footing = .naming ∨ footing = .doubtful
    · have doubtful : footing.behind .condition = .doubtful := if_pos name
      have behind : Footing.doubtful.behind .connective = .doubtful := rfl
      have exposed : Footing.doubtful.exposes rest = true := rfl
      rw [doubtful, behind, exposed, if_pos rfl]
      omega
    · -- Without the connective, the next one would be exposed; it made this one loose.
      have conditional : footing.behind .condition = .conditional := if_neg name
      have behind : Footing.conditional.behind .connective = .firm := rfl
      have exposed : Footing.conditional.exposes rest = Joint.condition.isLoose rest := rfl
      have outside : Footing.conditional.inName = false := rfl
      have less := slackFrom_le_of_inName outside rest
      rw [conditional, behind, exposed]
      omega

/-- A loose joint may be left out where no more is exposed without it. -/
theorem of_loose
    {joint : Joint}
    {atom : List Char}
    (isJoint : joint? first = some joint)
    (loose : joint.isLoose (atom :: rest) = true)
    (noConnective : joint? atom ≠ some .connective)
    (holds : (footing.next atom).Holds ((footing.behind joint).next atom)) :
    Eases 1 footing (first :: atom :: rest) (atom :: rest) where
  isLoose_head := by
    intro other looseOther
    rw [Joint.isLoose_cons _ isJoint, loose, looseOther, Bool.and_self, Bool.or_true]
  slack_add_le := by
    have less := slackFrom_cons_le noConnective holds rest
    have here := one_le_excess footing isJoint loose
    change _ ≤ excess footing first (atom :: rest) + slackFrom (footing.next first) (atom :: rest)
    rw [Footing.next_of_joint? _ isJoint]
    omega

/-- A `WHERE` in front of the next clause may be left out. -/
theorem of_clause
    {clause : List Char}
    (isFirst : joint? first = some .condition)
    (known : clause.map fold ∈ clauseWords) :
    Eases 1 footing (first :: clause :: rest) (clause :: rest) := by
  have noJoint : joint? clause = none := joint?_of_mem_clauseWords known
  apply of_loose isFirst
  · rw [Joint.isLoose_cons_of_none _ noJoint]
    exact List.contains_iff_mem.mpr known
  · rw [noJoint]
    rintro ⟨⟩
  · exact Footing.holds_next_of_clause footing known

/-- A comma at the end of its list may be left out. -/
theorem of_comma
    {list : List (List Char)}
    (ending : list = [] ∨ ∃ atom others, list = atom :: others ∧
      (atom.map fold = "FROM".toList ∨ atom.map fold = "WHERE".toList ∨ atom = [')'])) :
    Eases 1 footing ([','] :: list) list := by
  have isComma : joint? [','] = some .comma := by decide
  rcases ending with rfl | ⟨atom, others, rfl, isFrom | isWhere | rfl⟩
  · exact of_last isComma
  · have noJoint := joint?_of_from isFrom
    apply of_loose isComma
    · simp [Joint.isLoose_cons_of_none _ noJoint, Joint.endsAt, isFrom]
    · rw [noJoint]
      rintro ⟨⟩
    · rw [Footing.next_of_from _ isFrom, Footing.next_of_from _ isFrom]
      exact Or.inr (Or.inl rfl)
  · have isJoint := joint?_of_where isWhere
    apply of_loose isComma
    · exact Joint.isLoose_of_yields isJoint rfl others
    · rw [isJoint]
      rintro ⟨⟩
    · rw [Footing.next_of_joint? _ isJoint, Footing.next_of_joint? _ isJoint]
      cases footing <;> exact Or.inr (Or.inl rfl)
  · apply of_loose isComma
    · rw [Joint.isLoose_cons_of_none _ (by decide)]
      decide
    · decide
    · cases footing <;> exact Or.inl (by decide)

/-- A `FROM` may be written in another case. -/
theorem of_from
    {drop : Nat}
    {old new : List (List Char)}
    (isFirst : first.map fold = "FROM".toList)
    (isSingle : single.map fold = "FROM".toList)
    (slackLe : slackFrom .naming new + drop ≤ slackFrom .naming old) :
    Eases drop footing (first :: old) (single :: new) where
  isLoose_head := by
    intro joint
    rw [Joint.isLoose_cons_of_none _ (joint?_of_from isFirst),
      Joint.isLoose_cons_of_none _ (joint?_of_from isSingle)]
    cases joint with
    | connective => exact id
    | condition => simp [Joint.endsAt, isFirst, isSingle]
    | comma => simp [Joint.endsAt, isFirst]
  slack_add_le := by
    rw [slackFrom_of_none _ _ (joint?_of_from isFirst),
      slackFrom_of_none _ _ (joint?_of_from isSingle), Footing.next_of_from _ isFirst,
      Footing.next_of_from _ isSingle]
    exact slackLe

end Eases

section Condition

variable
  {footing : Footing}
  {condition first single : List Char}
  {rest : List (List Char)}

/-- A `WHERE` in front of a condition is not loose. -/
theorem isLoose_condition_one
    (rest : List (List Char)) : Joint.condition.isLoose (['1'] :: rest) = false := by
  rw [Joint.isLoose_cons_of_none _ (by decide)]
  decide

/-- Behind a condition that always holds a connective is not exposed. -/
theorem slackFrom_condition
    (isCondition : joint? condition = some .condition)
    (isSingle : joint? single = some .connective) :
    slackFrom footing (condition :: ['1'] :: ['='] :: ['1'] :: single :: rest) =
      (if Joint.connective.isLoose rest then 1 else 0) + slackFrom .firm rest := by
  have one : joint? ['1'] = none := by decide
  have equals : joint? ['='] = none := by decide
  have firm : (((footing.behind .condition).next ['1']).next ['=']).next ['1'] = .firm := by
    cases footing <;> decide
  have exposed : Footing.firm.exposes rest = false := rfl
  have behind : Footing.firm.behind .connective = .firm := rfl
  rw [slackFrom_of_joint? _ _ isCondition (by decide), isLoose_condition_one,
    slackFrom_of_none _ _ one, slackFrom_of_none _ _ equals, slackFrom_of_none _ _ one, firm,
    slackFrom_of_connective _ _ isSingle, exposed, behind]
  simp only [Bool.false_eq_true, if_false, Nat.zero_add, Nat.add_zero]

/-- An exposed connective may get a condition in front of it. -/
theorem slackFrom_exposed
    (isCondition : joint? condition = some .condition)
    (isSingle : joint? single = some .connective)
    (inside : footing.inName = true) :
    slackFrom footing (condition :: ['1'] :: ['='] :: ['1'] :: single :: rest) + 1 ≤
      slackFrom footing (single :: rest) := by
  have less := Footing.slackFrom_firm_le (footing.behind .connective) rest
  rw [slackFrom_condition isCondition isSingle, slackFrom_of_connective _ _ isSingle,
    if_pos (Footing.exposes_of_inName inside rest)]
  omega

/-- A connective behind a `WHERE` may get a condition in front of it. -/
theorem slackFrom_emptyCondition
    (isFirst : joint? first = some .condition)
    (isCondition : joint? condition = some .condition)
    (isSingle : joint? single = some .connective) :
    slackFrom footing (condition :: ['1'] :: ['='] :: ['1'] :: single :: rest) + 1 ≤
      slackFrom footing (first :: single :: rest) := by
  have yields : Joint.condition.isLoose (single :: rest) = true :=
    Joint.isLoose_of_yields isSingle rfl rest
  have less :=
    Footing.slackFrom_firm_le ((footing.behind .condition).behind .connective) rest
  rw [slackFrom_condition isCondition isSingle, slackFrom_of_joint? _ _ isFirst (by decide),
    slackFrom_of_connective _ _ isSingle, if_pos yields]
  omega

end Condition

/-- The atoms of a table with a condition that always holds. -/
theorem atoms_from_where
    (name rest : List Char) :
    atoms ("FROM ".toList ++ name ++ " WHERE 1=1 ".toList ++ rest) =
      "FROM".toList ::
        (atoms name ++ ("WHERE".toList :: ['1'] :: ['='] :: ['1'] :: atoms rest)) := by
  have table : atoms "FROM ".toList = ["FROM".toList] := by decide
  have condition : atoms " WHERE 1=1 ".toList = ["WHERE".toList, ['1'], ['='], ['1']] := by
    decide
  have behindFrom : IsSeam "FROM ".toList (name ++ (" WHERE 1=1 ".toList ++ rest)) :=
    Or.inl startsWord_space
  have behindName : IsSeam name (" WHERE 1=1 ".toList ++ rest) := Or.inr startsWord_space
  have behindCondition : IsSeam " WHERE 1=1 ".toList rest := Or.inl startsWord_space
  rw [List.append_assoc, List.append_assoc, atoms_append behindFrom, table, atoms_append behindName,
    atoms_append behindCondition, condition]
  rfl

/-- A sign of a name that is no letter is one of the marks. -/
theorem mem_nameMarks
    {character : Char}
    (noLetter : isWord character ≠ true)
    (sign : RepairRule.isNameCharacter character = true) : [character] ∈ nameMarks := by
  simpa [RepairRule.isNameCharacter, noLetter, nameMarks, or_assoc] using sign

/-- A mark is an atom of its own, and no joint. -/
theorem atoms_cons_of_mark
    {character : Char}
    (isMark : [character] ∈ nameMarks)
    (rest : List Char) :
    atoms (character :: rest) = [character] :: atoms rest ∧ joint? [character] = none := by
  have marks : ∀ mark ∈ nameMarks, joint? mark = none ∧ atoms mark = [mark] ∧
      startsWord mark.getLast? = true := by decide
  obtain ⟨noJoint, alone, starts⟩ := marks _ isMark
  have seam : IsSeam [character] rest := Or.inl starts
  rw [← List.singleton_append, atoms_append seam, alone, List.singleton_append]
  exact ⟨rfl, noJoint⟩

/-- What takes slack out behind a name takes it out with the name, if a word that ends the name has
no more slack in front of it. -/
theorem slackFrom_name
    {name : List Char}
    {old new : List (List Char)}
    (letters : ∀ character ∈ name, RepairRule.isNameCharacter character = true)
    (excessLe : ∀ word, endsWord word = false →
      excess .naming word new ≤ excess .naming word old)
    (slackLe : ∀ footing : Footing, footing.inName = true →
      slackFrom footing new + 1 ≤ slackFrom footing old)
    {footing : Footing}
    (inside : footing.inName = true)
    (starts : endsWord name = true ∨ footing = .naming) :
    slackFrom footing (atoms name ++ new) + 1 ≤ slackFrom footing (atoms name ++ old) := by
  -- The name is read word by word and mark by mark; behind a word no other word goes on.
  induction size : name.length using Nat.strong_induction_on generalizing name footing with
  | _ size inductionHypothesis =>
      subst size
      cases name with
      | nil => exact slackLe footing inside
      | cons character rest =>
          by_cases letter : isWord character = true
          · have begins : endsWord (character :: rest) = false := by simp [endsWord, letter]
            obtain rfl : footing = .naming := by
              apply starts.resolve_left
              rw [begins]
              rintro ⟨⟩
            obtain ⟨word, behind, parts, something, isWord, ends, splitWord⟩ :=
              atoms_of_endsWord_eq_false begins
            rw [parts] at letters
            have lettersBehind : ∀ character ∈ behind,
                RepairRule.isNameCharacter character = true :=
              fun other present => letters other (List.mem_append_right word present)
            have shorter : behind.length < (character :: rest).length := by
              have positive := List.length_pos_iff.mpr something
              rw [parts, List.length_append]
              omega
            have later := inductionHypothesis behind.length shorter lettersBehind
              (Footing.inName_next_naming isWord) (Or.inl ends) rfl
            have here : excess .naming word (atoms behind ++ new) ≤
                excess .naming word (atoms behind ++ old) := by
              cases behind with
              | nil => exact excessLe word isWord
              | cons mark others =>
                  have noLetter : Text.isWord mark ≠ true := by simpa [endsWord] using ends
                  have isMark := mem_nameMarks noLetter (lettersBehind mark List.mem_cons_self)
                  obtain ⟨split, noJoint⟩ := atoms_cons_of_mark isMark others
                  rw [split]
                  exact (excess_cons_of_none noJoint _ _ _ _).le
            rw [splitWord, List.cons_append, List.cons_append, slackFrom, slackFrom]
            omega
          · rw [List.forall_mem_cons] at letters
            have isMark := mem_nameMarks letter letters.1
            obtain ⟨split, noJoint⟩ := atoms_cons_of_mark isMark rest
            rw [split, List.cons_append, List.cons_append, slackFrom_of_none _ _ noJoint,
              slackFrom_of_none _ _ noJoint, Footing.next_of_mark inside isMark]
            exact inductionHypothesis rest.length (Nat.lt_succ_self _) letters.2 rfl
              (Or.inr rfl) rfl

/-- A condition behind a name takes slack out in front of a connective, with or without a `WHERE`
that is there already. -/
theorem slackFrom_name_condition
    {name condition single : List Char}
    {old rest : List (List Char)}
    (letters : ∀ character ∈ name, RepairRule.isNameCharacter character = true)
    (isCondition : joint? condition = some .condition)
    (isSingle : joint? single = some .connective)
    (connects : old = single :: rest ∨
      ∃ first, joint? first = some .condition ∧ old = first :: single :: rest) :
    slackFrom .naming (atoms name ++ condition :: ['1'] :: ['='] :: ['1'] :: single :: rest) + 1 ≤
      slackFrom .naming (atoms name ++ old) := by
  have yields : Joint.condition.isLoose old = true := by
    rcases connects with rfl | ⟨first, isFirst, rfl⟩
    · exact Joint.isLoose_of_yields isSingle rfl _
    · exact Joint.isLoose_of_yields isFirst rfl _
  apply slackFrom_name letters _ _ rfl (Or.inr rfl)
  · intro word letters
    cases isJoint : joint? word with
    | none => rw [excess_of_joint?_eq_none _ _ isJoint, excess_of_joint?_eq_none _ _ isJoint]
    | some joint =>
        have looseLe
            (loose : joint.isLoose (condition :: ['1'] :: ['='] :: ['1'] :: single :: rest) = true) :
            joint.isLoose old = true := by
          cases joint with
          | connective =>
              rw [Joint.isLoose_cons _ isCondition, isLoose_condition_one] at loose
              cases loose
          | condition => exact yields
          | comma => exact absurd isJoint (joint?_ne_comma letters)
        rw [excess_of_joint? _ _ isJoint, excess_of_joint? _ _ isJoint]
        exact Nat.add_le_add (ite_one_le_ite_one looseLe) (Nat.le_refl _)
  · intro footing inside
    rcases connects with rfl | ⟨first, isFirst, rfl⟩
    · exact slackFrom_exposed isCondition isSingle inside
    · exact slackFrom_emptyCondition isFirst isCondition isSingle

namespace RepairRule

variable
  {before : Option Char}
  {text replacement rest : List Char}

/-- Leaving out a leading connective takes slack out. -/
theorem slack_leadingConnective
    (found : leadingConnective.recognize before text = some (replacement, rest)) :
    before = none ∧ slack (replacement ++ rest) + 1 ≤ slack text := by
  simp only [recognize, Option.bind_eq_bind, Option.bind_eq_some_iff, check?_eq_some_iff,
    Option.some.injEq, Prod.mk.injEq, exists_const] at found
  obtain ⟨first, next, behindConnective, behind, behindBlanks, rfl, rfl⟩ := found
  obtain ⟨atom, connective, split⟩ := atoms_of_connectiveAndBlanks behindConnective behindBlanks
  refine ⟨Option.isNone_iff_eq_none.mp first, ?_⟩
  rw [slack, slack, ← atoms_trimLeft text, split]
  exact slackFrom_bare_connective connective _

variable
  {footing : Footing}

/-- Leaving out one of two connectives takes slack out. -/
theorem eases_duplicateConnective
    (found : duplicateConnective.recognize before text = some (replacement, rest)) :
    Eases 1 footing (atoms text) (atoms (replacement ++ rest)) := by
  simp only [recognize, Option.bind_eq_bind, Option.bind_eq_some_iff, check?_eq_some_iff,
    Option.some.injEq, Prod.mk.injEq, exists_const] at found
  obtain ⟨_, next, behindFirst, second, behindBlanks, behind, behindSecond, ends, rfl, rfl⟩ := found
  have behindSingle : afterConnective? ("AND".toList ++ behind) = some behind := rfl
  obtain ⟨first, isFirst, split⟩ := atoms_of_connectiveAndBlanks behindFirst behindBlanks
  obtain ⟨second, isSecond, splitSecond⟩ := atoms_of_afterConnective? behindSecond ends
  obtain ⟨single, isSingle, splitSingle⟩ := atoms_of_afterConnective? behindSingle ends
  rw [split, splitSecond, splitSingle]
  exact Eases.of_connectives isFirst isSecond isSingle

/-- Leaving out one of two `WHERE` takes slack out. -/
theorem eases_duplicateWhere
    (found : duplicateWhere.recognize before text = some (replacement, rest)) :
    Eases 1 footing (atoms text) (atoms (replacement ++ rest)) := by
  simp only [recognize, Option.bind_eq_bind, Option.bind_eq_some_iff, check?_eq_some_iff,
    Option.some.injEq, Prod.mk.injEq, exists_const] at found
  obtain ⟨_, second, behindFirst, behind, behindSecond, ends, rfl, rfl⟩ := found
  have behindSingle : afterKeyword? "WHERE".toList ("WHERE".toList ++ behind) = some behind := rfl
  obtain ⟨first, isFirst, split⟩ := atoms_of_whereAndBlanks behindFirst
  obtain ⟨second, isSecond, splitSecond⟩ := atoms_of_afterKeyword? (by decide) behindSecond ends
  obtain ⟨single, isSingle, splitSingle⟩ := atoms_of_afterKeyword? (by decide) behindSingle ends
  rw [split, splitSecond, splitSingle]
  exact Eases.of_conditions isFirst (joint?_of_where isSecond) (joint?_of_where isSingle)

/-- Leaving out a connective behind `WHERE` takes slack out. -/
theorem eases_whereConnective
    (found : whereConnective.recognize before text = some (replacement, rest)) :
    Eases 1 footing (atoms text) (atoms (replacement ++ rest)) := by
  simp only [recognize, Option.bind_eq_bind, Option.bind_eq_some_iff, check?_eq_some_iff,
    Option.some.injEq, Prod.mk.injEq, exists_const] at found
  obtain ⟨_, connective, behindWhere, next, behindConnective, behind, behindBlanks, rfl, rfl⟩ := found
  have behindSingle : afterKeyword? "WHERE".toList ("WHERE ".toList ++ behind) =
      some (' ' :: behind) := rfl
  obtain ⟨first, isFirst, split⟩ := atoms_of_whereAndBlanks behindWhere
  obtain ⟨second, isSecond, splitSecond⟩ :=
    atoms_of_connectiveAndBlanks behindConnective behindBlanks
  obtain ⟨single, isSingle, splitSingle⟩ :=
    atoms_of_afterKeyword? (by decide) behindSingle startsWord_space
  rw [split, splitSecond, splitSingle, atoms_cons_of_isBlank behind rfl]
  exact Eases.of_conditionAndConnective isFirst isSecond (joint?_of_where isSingle)

/-- Leaving out a connective at the end takes slack out. -/
theorem eases_trailingConnective
    (found : trailingConnective.recognize before text = some (replacement, rest)) :
    Eases 1 footing (atoms text) (atoms (replacement ++ rest)) := by
  simp only [recognize, Option.bind_eq_bind, Option.bind_eq_some_iff,
    Option.some.injEq, Prod.mk.injEq] at found
  obtain ⟨connective, behindBlanks, next, behindConnective, _, ending, rfl, rfl⟩ := found
  obtain ⟨atom, isConnective, split⟩ :=
    atoms_of_afterConnective? behindConnective (endsWord_of_atEnd? ending)
  rw [atoms_of_afterBlanks? behindBlanks, split, atoms_of_atEnd? ending]
  exact Eases.of_last isConnective

/-- Leaving out a `WHERE` in front of a clause takes slack out. -/
theorem eases_emptyWhere
    (found : emptyWhere.recognize before text = some (replacement, rest)) :
    Eases 1 footing (atoms text) (atoms (replacement ++ rest)) := by
  simp only [recognize, Option.bind_eq_bind, Option.bind_eq_some_iff, check?_eq_some_iff,
    Option.some.injEq, Prod.mk.injEq, exists_const] at found
  obtain ⟨_, clause, behindWhere, behind, behindClause, ends, rfl, rfl⟩ := found
  have whole : consumed clause behind ++ behind = clause := by
    obtain ⟨taken, rfl⟩ := afterClause?_suffix behindClause
    rw [consumed_append]
  obtain ⟨first, isFirst, split⟩ := atoms_of_whereAndBlanks behindWhere
  obtain ⟨atom, others, known, splitClause⟩ := atoms_of_afterClause? behindClause ends
  rw [whole, split, splitClause]
  exact Eases.of_clause isFirst known

/-- Leaving out a `WHERE` at the end takes slack out. -/
theorem eases_trailingWhere
    (found : trailingWhere.recognize before text = some (replacement, rest)) :
    Eases 1 footing (atoms text) (atoms (replacement ++ rest)) := by
  simp only [recognize, Option.bind_eq_bind, Option.bind_eq_some_iff, check?_eq_some_iff,
    Option.some.injEq, Prod.mk.injEq, exists_const] at found
  obtain ⟨_, next, behindWhere, _, ending, rfl, rfl⟩ := found
  obtain ⟨atom, isWhere, split⟩ :=
    atoms_of_afterKeyword? (by decide) behindWhere (endsWord_of_atEnd? ending)
  rw [← atoms_trimLeft text, split, atoms_of_atEnd? ending]
  exact Eases.of_last (joint?_of_where isWhere)

/-- Leaving out a comma at the end of its list takes slack out. -/
theorem eases_danglingComma
    (found : danglingComma.recognize before text = some (replacement, rest)) :
    Eases 1 footing (atoms text) (atoms (replacement ++ rest)) := by
  simp only [recognize, Option.bind_eq_bind, Option.bind_eq_some_iff,
    Option.some.injEq, Prod.mk.injEq] at found
  obtain ⟨next, behindComma, behind, behindList, rfl, rfl⟩ := found
  have whole : consumed (trimLeft next) behind ++ behind = trimLeft next := by
    obtain ⟨taken, split⟩ := afterListEnd?_suffix behindList
    rw [← split, consumed_append]
  have alone : atoms [','] = [[',']] := by decide
  have seam : IsSeam [','] next := Or.inl (by decide)
  rw [List.cons_append, whole, atoms_cons_of_isBlank _ rfl, afterExact?_eq_some_iff.mp behindComma,
    atoms_append seam, alone, List.singleton_append, ← atoms_trimLeft next]
  exact Eases.of_comma (atoms_of_afterListEnd? behindList)

/-- A condition in front of an exposed connective takes slack out. -/
theorem eases_fromConnective
    (found : fromConnective.recognize before text = some (replacement, rest)) :
    Eases 1 footing (atoms text) (atoms (replacement ++ rest)) := by
  simp only [recognize, Option.bind_eq_bind, Option.bind_eq_some_iff, check?_eq_some_iff,
    Option.some.injEq, Prod.mk.injEq, exists_const] at found
  obtain ⟨_, table, behindFrom, _, _, next, behindBlanks, behind, behindConnective, ends, rfl, rfl⟩ :=
    found
  have parts : table.takeWhile isNameCharacter ++ table.dropWhile isNameCharacter = table :=
    List.takeWhile_append_dropWhile
  have letters := List.all_eq_true.mp (List.all_takeWhile (p := isNameCharacter) (l := table))
  generalize table.takeWhile isNameCharacter = name at parts letters
  generalize table.dropWhile isNameCharacter = after at parts behindBlanks ⊢
  obtain ⟨atom, isConnective, split⟩ := atoms_of_afterConnective? behindConnective ends
  have whole : consumed ((afterKeywordAndBlanks? "WHERE".toList next).getD next) behind ++ behind =
      (afterKeywordAndBlanks? "WHERE".toList next).getD next := by
    obtain ⟨word, _, behindWord⟩ := exists_of_afterConnective? behindConnective
    obtain ⟨taken, split⟩ := afterKeyword?_suffix behindWord
    rw [← split, consumed_append]
  obtain ⟨fromAtom, isFrom, splitFrom⟩ := atoms_of_afterKeywordAndBlanks? (by decide) behindFrom
  rw [List.append_assoc _ (consumed _ behind) behind, whole, ← parts, consumed_append,
    atoms_from_where, split, splitFrom, ← parts,
    atoms_append (Or.inr (endsWord_of_afterBlanks? behindBlanks)),
    atoms_of_afterBlanks? behindBlanks]
  refine Eases.of_from isFrom rfl
    (slackFrom_name_condition letters (joint?_of_where rfl) isConnective ?_)
  cases behindWhere : afterKeywordAndBlanks? "WHERE".toList next with
  | none =>
      rw [behindWhere, Option.getD_none] at split
      exact Or.inl split
  | some connective =>
      rw [behindWhere, Option.getD_some] at split
      obtain ⟨first, isFirst, splitFirst⟩ := atoms_of_whereAndBlanks behindWhere
      exact Or.inr ⟨first, isFirst, splitFirst.trans (congrArg _ split)⟩

/-- The rules that take slack out. -/
def tightening : List RepairRule :=
  [leadingConnective, duplicateConnective, duplicateWhere, whereConnective, trailingConnective,
    emptyWhere, trailingWhere, danglingComma, fromConnective]

/-- Mending a match takes slack out. -/
theorem eases_recognize
    {rule : RepairRule}
    (tightens : rule ∈ tightening)
    (inside : rule ≠ leadingConnective)
    (found : rule.recognize before text = some (replacement, rest)) :
    Eases 1 footing (atoms text) (atoms (replacement ++ rest)) := by
  cases rule with
  | leadingConnective => exact absurd rfl inside
  | duplicateConnective => exact eases_duplicateConnective found
  | duplicateWhere => exact eases_duplicateWhere found
  | whereConnective => exact eases_whereConnective found
  | trailingConnective => exact eases_trailingConnective found
  | emptyWhere => exact eases_emptyWhere found
  | trailingWhere => exact eases_trailingWhere found
  | danglingComma => exact eases_danglingComma found
  | fromConnective => exact eases_fromConnective found
  | bareFrom => exact absurd tightens (by decide)
  | bareSelect => exact absurd tightens (by decide)

/-- A rule that changes a text takes slack out. -/
theorem slack_lt_of_mend?
    {rule : RepairRule}
    {text changed : List Char}
    (tightens : rule ∈ tightening)
    (mended : rule.mend? text = some changed) : slack changed < slack text := by
  obtain ⟨rfl, different⟩ := mend?_eq_some_iff.mp mended
  refine Or.resolve_left ?_ different
  refine replaceAll_induction (fun new old => new = old ∨ slack new < slack old)
    (fun _ => Or.inl rfl) ?_ ?_ text
  · rintro first second third (rfl | less) (rfl | lessNext)
    · exact Or.inl rfl
    · exact Or.inr lessNext
    · exact Or.inr less
    · exact Or.inr (less.trans lessNext)
  · intro before text replacement rest start found opens follows
    right
    by_cases leading : rule = leadingConnective
    · subst leading
      obtain ⟨first, less⟩ := slack_leadingConnective found
      rw [opens first]
      exact less
    · obtain ⟨seam, seamMended⟩ := (isMended_recognize found).seams follows
      have eases : Eases 1 .bare (atoms start ++ atoms text)
          (atoms start ++ atoms (replacement ++ rest)) :=
        (eases_recognize tightens leading found).append
      rw [List.append_assoc, slack, slack, atoms_append seam, atoms_append seamMended]
      exact eases.slack_add_le

end RepairRule

/-- The text starts with `FROM`, or is a `SELECT` alone. -/
def IsHeadless (list : List (List Char)) : Prop :=
  (∃ first others, list = first :: others ∧ first.map fold = "FROM".toList) ∨
    ∃ first, list = [first] ∧ first.map fold = "SELECT".toList

/-- A text is not headless if it goes on behind `SELECT`. -/
theorem not_isHeadless
    {first second : List Char}
    (others : List (List Char))
    (select : first.map fold = "SELECT".toList) : ¬ IsHeadless (first :: second :: others) := by
  rintro (⟨_, _, same, isFrom⟩ | ⟨_, same, _⟩)
  · obtain ⟨rfl, _⟩ := List.cons.inj same
    rw [select] at isFrom
    cases isFrom
  · cases same

namespace RepairRule

variable
  {before : Option Char}
  {text replacement rest : List Char}

/-- A `SELECT` in front of `FROM` adds no slack. -/
theorem heads_bareFrom
    (found : bareFrom.recognize before text = some (replacement, rest)) :
    before = none ∧ IsHeadless (atoms text) ∧ ¬ IsHeadless (atoms (replacement ++ rest)) ∧
      slack (replacement ++ rest) ≤ slack text := by
  simp only [recognize, Option.bind_eq_bind, Option.bind_eq_some_iff, check?_eq_some_iff,
    Option.some.injEq, Prod.mk.injEq, exists_const] at found
  obtain ⟨first, table, behindFrom, _, _, rfl, rfl⟩ := found
  have whole : consumed (trimLeft text) (table.drop 1) ++ table.drop 1 = trimLeft text := by
    obtain ⟨taken, split⟩ :=
      (List.drop_suffix 1 table).trans (afterKeywordAndBlanks?_suffix behindFrom).1
    rw [← split, consumed_append]
  have columns : atoms "SELECT * ".toList = ["SELECT".toList, ['*']] := by decide
  have seam : IsSeam "SELECT * ".toList (trimLeft text) := Or.inl startsWord_space
  obtain ⟨fromAtom, isFrom, split⟩ := atoms_of_afterKeywordAndBlanks? (by decide) behindFrom
  have splitMended : atoms ("SELECT * ".toList ++ consumed (trimLeft text) (table.drop 1) ++
      table.drop 1) = "SELECT".toList :: ['*'] :: fromAtom :: atoms table := by
    rw [List.append_assoc, whole, atoms_append seam, columns, split]
    rfl
  rw [atoms_trimLeft] at split
  refine ⟨Option.isNone_iff_eq_none.mp first, ?_, ?_, ?_⟩
  · rw [split]
    exact Or.inl ⟨fromAtom, _, rfl, isFrom⟩
  · rw [splitMended]
    exact not_isHeadless _ rfl
  · have noJoints : joint? "SELECT".toList = none ∧ joint? ['*'] = none := by decide
    rw [slack, slack, splitMended, split, slackFrom, slackFrom,
      excess_of_joint?_eq_none _ _ noJoints.1, excess_of_joint?_eq_none _ _ noJoints.2, slackFrom,
      slackFrom, Footing.next_of_from _ isFrom, Footing.next_of_from _ isFrom,
      excess_of_joint?_eq_none _ _ (joint?_of_from isFrom),
      excess_of_joint?_eq_none _ _ (joint?_of_from isFrom), Nat.zero_add, Nat.zero_add]

/-- A column behind `SELECT` adds no slack. -/
theorem heads_bareSelect
    (found : bareSelect.recognize before text = some (replacement, rest)) :
    before = none ∧ IsHeadless (atoms text) ∧ ¬ IsHeadless (atoms (replacement ++ rest)) ∧
      slack (replacement ++ rest) ≤ slack text := by
  simp only [recognize, Option.bind_eq_bind, Option.bind_eq_some_iff, check?_eq_some_iff,
    Option.some.injEq, Prod.mk.injEq, exists_const] at found
  obtain ⟨first, next, behindSelect, _, ending, rfl, rfl⟩ := found
  obtain ⟨atom, isSelect, split⟩ :=
    atoms_of_afterKeyword? (by decide) behindSelect (endsWord_of_atEnd? ending)
  rw [atoms_trimLeft, atoms_of_atEnd? ending] at split
  have column : atoms ("SELECT 1".toList ++ []) = ["SELECT".toList, ['1']] := by decide
  refine ⟨Option.isNone_iff_eq_none.mp first, ?_, ?_, ?_⟩
  · rw [split]
    exact Or.inr ⟨atom, rfl, isSelect⟩
  · rw [column]
    exact not_isHeadless _ rfl
  · have nothing : slack ("SELECT 1".toList ++ []) = 0 := by
      rw [slack, column]
      decide
    rw [nothing]
    exact Nat.zero_le _

/-- The rules that put a `SELECT` in front or a column behind it. -/
def heading : List RepairRule :=
  [bareFrom, bareSelect]

/-- A rule that changes the head of a text adds no slack, and the text has a head then. -/
theorem heads_of_mend?
    {rule : RepairRule}
    {text changed : List Char}
    (heads : rule ∈ heading)
    (mended : rule.mend? text = some changed) :
    IsHeadless (atoms text) ∧ ¬ IsHeadless (atoms changed) ∧ slack changed ≤ slack text := by
  obtain ⟨rfl, different⟩ := mend?_eq_some_iff.mp mended
  refine Or.resolve_left ?_ different
  refine replaceAll_induction (fun new old => new = old ∨
    (IsHeadless (atoms old) ∧ ¬ IsHeadless (atoms new) ∧ slack new ≤ slack old))
    (fun _ => Or.inl rfl) ?_ ?_ text
  · rintro first second third (rfl | once) (rfl | again)
    · exact Or.inl rfl
    · exact Or.inr again
    · exact Or.inr once
    · exact absurd once.1 again.2.1
  · intro before text replacement rest start found opens _
    have here : before = none ∧ IsHeadless (atoms text) ∧
        ¬ IsHeadless (atoms (replacement ++ rest)) ∧ slack (replacement ++ rest) ≤ slack text := by
      simp only [heading, List.mem_cons, List.not_mem_nil, or_false] at heads
      rcases heads with rfl | rfl
      · exact heads_bareFrom found
      · exact heads_bareSelect found
    rw [opens here.1]
    exact Or.inr here.2

end RepairRule

end Template
end TableReach
