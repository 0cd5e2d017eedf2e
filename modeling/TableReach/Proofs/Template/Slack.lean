import TableReach.Proofs.Template.Conservation

/-!
# Slack

Connectives, `WHERE` and commas are the joints of a statement.  A joint is loose if nothing
stands behind it that it could join: nothing at all, a joint to which it yields, or joints
that are themselves loose and behind which it would be loose.  A connective is exposed if
nothing stands before it that it could join.  The slack of a text counts the loose joints
and the exposed connectives.  A part of a text may be exchanged without adding slack if the
new part takes no more of it and leaves what stands before it no looser.
-/

namespace TableReach
namespace Template

open Text

/-- The atoms that repairs leave out. -/
inductive Joint where
  /-- `AND` or `OR`. -/
  | connective
  /-- `WHERE`. -/
  | condition
  /-- A comma. -/
  | comma
deriving DecidableEq

/-- The joint that an atom is, if it is one. -/
def joint? (atom : List Char) : Option Joint :=
  if atom.map fold ∈ ["AND".toList, "OR".toList] then some .connective
  else if atom.map fold = "WHERE".toList then some .condition
  else if atom = [','] then some .comma
  else none

/-- The keywords of the clauses behind a condition. -/
def clauseWords : List (List Char) :=
  ["ORDER".toList, "GROUP".toList, "HAVING".toList, "LIMIT".toList]

namespace Joint

/-- One of the two joints is too many where the second stands right behind the first. -/
def yields : Joint → Joint → Bool
  | connective, connective => true
  | condition, connective => true
  | condition, condition => true
  | comma, condition => true
  | _, _ => false

/-- An atom that is no joint leaves a joint in front of it loose: the next clause a `WHERE`, and
`FROM` or a closing bracket a comma. -/
def endsAt (joint : Joint) (atom : List Char) : Bool :=
  match joint with
  | connective => false
  | condition => clauseWords.contains (atom.map fold)
  | comma => atom.map fold == "FROM".toList || atom == [')']

/-- A joint in front of a list is loose. -/
def isLoose : Joint → List (List Char) → Bool
  | _, [] => true
  | joint, atom :: rest =>
      match joint? atom with
      | some other => joint.yields other || other.isLoose rest && joint.isLoose rest
      | none => joint.endsAt atom

end Joint

/-- The signs that the name of a table may hold. -/
def nameMarks : List (List Char) :=
  [['\x60'], ['"'], ['\x27'], ['.']]

/-- What stands before an atom. -/
inductive Footing where
  /-- Nothing. -/
  | bare
  /-- `WHERE`. -/
  | conditional
  /-- `FROM` or a part of a name, behind which a word goes on with the name. -/
  | naming
  /-- A joint where a name is expected, which may be taken for it. -/
  | doubtful
  /-- A word that may be all there is of a name. -/
  | named
  /-- Something that a connective can join. -/
  | firm
deriving DecidableEq

namespace Footing

/-- A name may end or go on here. -/
def inName : Footing → Bool
  | naming => true
  | doubtful => true
  | named => true
  | _ => false

/-- What stands before the atom behind a joint. -/
def behind (footing : Footing) (joint : Joint) : Footing :=
  if footing = naming ∨ footing = doubtful then doubtful
  else if joint = .condition then conditional
  else firm

/-- What stands before the next atom. -/
def next (footing : Footing) (atom : List Char) : Footing :=
  if atom.map fold = "FROM".toList then naming
  else
    match joint? atom with
    | some joint => footing.behind joint
    | none =>
        if footing.inName = true ∧ atom ∈ nameMarks then naming
        else if footing = naming ∧ endsWord atom = false ∨
            footing = doubtful ∧ atom.map fold ∈ clauseWords then named
        else firm

/-- A connective with this before it is exposed.  Behind a `WHERE`, which yields to it, that counts
only if the `WHERE` would be loose without the connective, too. -/
def exposes (footing : Footing) (rest : List (List Char)) : Bool :=
  match footing with
  | firm => false
  | conditional => Joint.condition.isLoose rest
  | _ => true

end Footing

/-- The slack of an atom: whether it is a loose joint, and whether it is an exposed connective. -/
def excess (footing : Footing) (atom : List Char) (rest : List (List Char)) : Nat :=
  match joint? atom with
  | none => 0
  | some joint =>
      (if joint.isLoose rest then 1 else 0) +
        if joint = .connective ∧ footing.exposes rest = true then 1 else 0

/-- The slack of a list of atoms. -/
def slackFrom (footing : Footing) : List (List Char) → Nat
  | [] => 0
  | atom :: rest => excess footing atom rest + slackFrom (footing.next atom) rest

/-- The slack of a text. -/
def slack (text : List Char) : Nat :=
  slackFrom .bare (atoms text)

theorem ite_one_le_ite_one
    {holds weaker : Prop}
    [Decidable holds]
    [Decidable weaker]
    (weakens : holds → weaker) : (if holds then 1 else 0) ≤ if weaker then 1 else 0 := by
  split
  · next true => rw [if_pos (weakens true)]
  · exact Nat.zero_le _

section Joints

variable
  {joint other : Joint}
  {atom : List Char}

@[simp]
theorem Joint.isLoose_nil
    (joint : Joint) : joint.isLoose [] = true := by
  rw [isLoose]

theorem Joint.isLoose_cons
    (joint : Joint)
    (isJoint : joint? atom = some other)
    (rest : List (List Char)) :
    joint.isLoose (atom :: rest) =
      (joint.yields other || other.isLoose rest && joint.isLoose rest) := by
  rw [isLoose, isJoint]

/-- A joint is loose in front of a joint to which it yields. -/
theorem Joint.isLoose_of_yields
    (isJoint : joint? atom = some other)
    (yields : joint.yields other = true)
    (rest : List (List Char)) : joint.isLoose (atom :: rest) = true := by
  rw [isLoose_cons _ isJoint, yields, Bool.true_or]

theorem Joint.isLoose_cons_of_none
    (joint : Joint)
    (noJoint : joint? atom = none)
    (rest : List (List Char)) : joint.isLoose (atom :: rest) = joint.endsAt atom := by
  rw [isLoose, noJoint]

theorem joint?_of_connective
    (word : atom.map fold ∈ ["AND".toList, "OR".toList]) : joint? atom = some .connective :=
  if_pos word

theorem joint?_of_where
    (word : atom.map fold = "WHERE".toList) : joint? atom = some .condition := by
  rw [joint?, word]
  rfl

/-- Another word is no joint. -/
theorem joint?_eq_none
    (noJoint : atom.map fold ∉ ["AND".toList, "OR".toList, "WHERE".toList, [',']]) :
    joint? atom = none := by
  simp only [List.mem_cons, List.not_mem_nil, or_false, not_or] at noJoint
  have noComma : atom ≠ [','] := by
    rintro rfl
    exact noJoint.2.2.2 (by decide)
  rw [joint?, if_neg, if_neg noJoint.2.2.1, if_neg noComma]
  simp only [List.mem_cons, List.not_mem_nil, or_false, not_or]
  exact ⟨noJoint.1, noJoint.2.1⟩

/-- A word is no comma. -/
theorem joint?_ne_comma
    (letters : endsWord atom = false) : joint? atom ≠ some .comma := by
  have noComma : atom ≠ [','] := by
    rintro rfl
    cases letters
  rw [joint?, if_neg noComma]
  split
  · rintro ⟨⟩
  · split <;> rintro ⟨⟩

theorem joint?_of_from
    (word : atom.map fold = "FROM".toList) : joint? atom = none := by
  apply joint?_eq_none
  rw [word]
  decide

theorem joint?_of_mem_clauseWords
    (word : atom.map fold ∈ clauseWords) : joint? atom = none := by
  apply joint?_eq_none
  have noJoint : ∀ word ∈ clauseWords,
      word ∉ ["AND".toList, "OR".toList, "WHERE".toList, [',']] := by decide
  exact noJoint _ word

theorem Footing.next_of_from
    (footing : Footing)
    (word : atom.map fold = "FROM".toList) : footing.next atom = naming := by
  rw [next, if_pos word]

theorem Footing.next_of_joint?
    (footing : Footing)
    (isJoint : joint? atom = some joint) : footing.next atom = footing.behind joint := by
  have noFrom : atom.map fold ≠ "FROM".toList := by
    intro isFrom
    rw [joint?_of_from isFrom] at isJoint
    cases isJoint
  rw [next, if_neg noFrom, isJoint]

/-- Outside of names only `FROM` and `WHERE` are not firm. -/
theorem Footing.next_of_inName
    {footing : Footing}
    (outside : footing.inName = false)
    (atom : List Char) : footing.next atom = firm.next atom := by
  cases footing with
  | naming => cases outside
  | doubtful => cases outside
  | named => cases outside
  | _ => rfl

theorem excess_of_joint?_eq_none
    (footing : Footing)
    (rest : List (List Char))
    (noJoint : joint? atom = none) : excess footing atom rest = 0 := by
  rw [excess, noJoint]

theorem excess_of_joint?
    (footing : Footing)
    (rest : List (List Char))
    (isJoint : joint? atom = some joint) :
    excess footing atom rest =
      (if joint.isLoose rest then 1 else 0) +
        if joint = .connective ∧ footing.exposes rest = true then 1 else 0 := by
  rw [excess, isJoint]

theorem slackFrom_of_connective
    (footing : Footing)
    (rest : List (List Char))
    (isConnective : joint? atom = some .connective) :
    slackFrom footing (atom :: rest) =
      (if Joint.connective.isLoose rest then 1 else 0) +
        (if footing.exposes rest then 1 else 0) + slackFrom (footing.behind .connective) rest := by
  rw [slackFrom, excess_of_joint? _ _ isConnective, Footing.next_of_joint? _ isConnective]
  simp only [true_and]

theorem slackFrom_of_joint?
    (footing : Footing)
    (rest : List (List Char))
    (isJoint : joint? atom = some joint)
    (noConnective : joint ≠ .connective) :
    slackFrom footing (atom :: rest) =
      (if joint.isLoose rest then 1 else 0) + slackFrom (footing.behind joint) rest := by
  rw [slackFrom, excess_of_joint? _ _ isJoint, Footing.next_of_joint? _ isJoint]
  simp only [noConnective, false_and, if_false, Nat.add_zero]

theorem slackFrom_of_none
    (footing : Footing)
    (rest : List (List Char))
    (noJoint : joint? atom = none) :
    slackFrom footing (atom :: rest) = slackFrom (footing.next atom) rest := by
  rw [slackFrom, excess_of_joint?_eq_none _ _ noJoint, Nat.zero_add]

theorem one_le_excess
    (footing : Footing)
    {rest : List (List Char)}
    (isJoint : joint? atom = some joint)
    (loose : joint.isLoose rest = true) : 1 ≤ excess footing atom rest := by
  rw [excess_of_joint? footing rest isJoint, if_pos loose]
  exact Nat.le_add_right _ _

/-- How much slack an atom has depends on the joints behind it only up to the first other atom. -/
theorem excess_cons_of_none
    {next : List Char}
    (noJoint : joint? next = none)
    (footing : Footing)
    (atom : List Char)
    (rest others : List (List Char)) :
    excess footing atom (next :: rest) = excess footing atom (next :: others) := by
  have exposes : footing.exposes (next :: rest) = footing.exposes (next :: others) := by
    cases footing with
    | conditional =>
        simp only [Footing.exposes, Joint.isLoose_cons_of_none _ noJoint]
    | _ => rfl
  simp only [excess, Joint.isLoose_cons_of_none _ noJoint, exposes]

end Joints

namespace Footing

@[simp]
theorem behind_behind
    (footing : Footing)
    (joint : Joint) : (footing.behind joint).behind joint = footing.behind joint := by
  cases footing <;> cases joint <;> rfl

/-- In front of what leaves a `WHERE` loose, a connective is exposed if it is so anywhere. -/
theorem exposes_of_isLoose
    {footing : Footing}
    {rest list : List (List Char)}
    (loose : Joint.condition.isLoose list = true)
    (exposed : footing.exposes rest = true) : footing.exposes list = true := by
  cases footing with
  | firm => exact exposed
  | conditional => exact loose
  | _ => rfl

/-- What stands before an atom exposes no more than something else would. -/
def Holds (footing other : Footing) : Prop :=
  footing = firm ∨ footing = other ∨ footing = conditional ∧ other = doubtful

instance (footing other : Footing) : Decidable (footing.Holds other) :=
  inferInstanceAs (Decidable (_ ∨ _ ∨ _ ∧ _))

/-- Something firm stays so up to the next `WHERE` and the next name. -/
theorem holds_next_firm
    (footing : Footing)
    (atom : List Char) : (firm.next atom).Holds (footing.next atom) := by
  by_cases isFrom : atom.map fold = "FROM".toList
  · rw [next_of_from _ isFrom, next_of_from _ isFrom]
    exact Or.inr (Or.inl rfl)
  · cases isJoint : joint? atom with
    | none =>
        left
        rw [next, if_neg isFrom, isJoint]
        simp [inName]
    | some joint =>
        rw [next_of_joint? _ isJoint, next_of_joint? _ isJoint]
        cases joint with
        | condition => cases footing <;> decide
        | _ => exact Or.inl rfl

variable
  {footing other : Footing}

theorem Holds.next
    (holds : footing.Holds other)
    (atom : List Char) : (footing.next atom).Holds (other.next atom) := by
  rcases holds with rfl | rfl | ⟨rfl, rfl⟩
  · exact holds_next_firm other atom
  · exact Or.inr (Or.inl rfl)
  · rw [next_of_inName rfl]
    exact holds_next_firm doubtful atom

theorem Holds.exposes
    (holds : footing.Holds other)
    {rest : List (List Char)}
    (exposed : footing.exposes rest = true) : other.exposes rest = true := by
  rcases holds with rfl | rfl | ⟨rfl, rfl⟩
  · cases exposed
  · exact exposed
  · rfl

/-- The slack of an atom with something firm before it. -/
theorem Holds.excess_le
    (holds : footing.Holds other)
    (atom : List Char)
    (rest : List (List Char)) : excess footing atom rest ≤ excess other atom rest := by
  unfold excess
  cases joint? atom with
  | none => exact Nat.le_refl 0
  | some joint =>
      exact Nat.add_le_add_left (ite_one_le_ite_one (And.imp_right holds.exposes)) _

/-- The slack of atoms with something firm before them. -/
theorem Holds.slackFrom_le
    (holds : footing.Holds other)
    (list : List (List Char)) : slackFrom footing list ≤ slackFrom other list := by
  induction list generalizing footing other with
  | nil => exact Nat.le_refl 0
  | cons atom rest inductionHypothesis =>
      exact Nat.add_le_add (holds.excess_le atom _) (inductionHypothesis (holds.next atom))

theorem slackFrom_firm_le
    (footing : Footing)
    (list : List (List Char)) : slackFrom firm list ≤ slackFrom footing list :=
  Holds.slackFrom_le (Or.inl rfl) list

theorem exposes_of_inName
    (inside : footing.inName = true)
    (rest : List (List Char)) : footing.exposes rest = true := by
  cases footing with
  | conditional => cases inside
  | firm => cases inside
  | _ => rfl

/-- A name goes on with a word behind one of its marks. -/
theorem inName_next_naming
    {word : List Char}
    (letters : endsWord word = false) : (naming.next word).inName = true := by
  by_cases isFrom : word.map fold = "FROM".toList
  · rw [next_of_from _ isFrom]
    rfl
  · cases isJoint : joint? word with
    | some joint =>
        rw [next_of_joint? _ isJoint]
        rfl
    | none =>
        rw [next, if_neg isFrom, isJoint]
        by_cases isMark : word ∈ nameMarks
        · simp [isMark, inName]
        · simp [isMark, letters, inName]

theorem next_of_mark
    {mark : List Char}
    (inside : footing.inName = true)
    (isMark : mark ∈ nameMarks) : footing.next mark = naming := by
  have noJoint : ∀ mark ∈ nameMarks, joint? mark = none ∧ mark.map fold ≠ "FROM".toList := by
    decide
  rw [next, (noJoint _ isMark).1, if_neg (noJoint _ isMark).2]
  exact if_pos ⟨inside, isMark⟩

end Footing

/-- What stands before an atom does not matter if it does not matter behind it, unless the atom is a
connective. -/
theorem slackFrom_cons_le
    {footing other : Footing}
    {atom : List Char}
    (noConnective : joint? atom ≠ some .connective)
    (holds : (footing.next atom).Holds (other.next atom))
    (rest : List (List Char)) : slackFrom footing (atom :: rest) ≤ slackFrom other (atom :: rest) := by
  apply Nat.add_le_add _ (holds.slackFrom_le rest)
  unfold excess
  cases isJoint : joint? atom with
  | none => exact Nat.le_refl 0
  | some joint =>
      have noExposure (footing : Footing) :
          ¬ (joint = .connective ∧ footing.exposes rest = true) := by
        rintro ⟨rfl, _⟩
        exact noConnective isJoint
      simp only [if_neg (noExposure _), Nat.le_refl]

/-- Outside of names no more than a connective at the front is exposed, and then a connective in
front of it would be loose. -/
theorem slackFrom_le_of_inName
    {footing : Footing}
    (outside : footing.inName = false)
    (list : List (List Char)) :
    slackFrom footing list ≤
      slackFrom .firm list + if Joint.connective.isLoose list then 1 else 0 := by
  cases list with
  | nil => exact Nat.zero_le _
  | cons atom rest =>
      by_cases connective : joint? atom = some .connective
      · have loose : Joint.connective.isLoose (atom :: rest) = true :=
          Joint.isLoose_of_yields connective rfl rest
        have exposedLe : (if footing.exposes rest then 1 else 0) ≤ 1 := by
          split <;> decide
        have same : footing.behind .connective = Footing.firm.behind .connective := by
          rw [← Footing.next_of_joint? _ connective, ← Footing.next_of_joint? _ connective,
            Footing.next_of_inName outside]
        rw [slackFrom_of_connective _ _ connective, slackFrom_of_connective _ _ connective, same,
          if_pos loose]
        omega
      · have holds : (footing.next atom).Holds (Footing.firm.next atom) :=
          Or.inr (Or.inl (Footing.next_of_inName outside atom))
        exact (slackFrom_cons_le connective holds rest).trans (Nat.le_add_right _ _)

/-- Behind `footing`, the list `new` has less slack than `old` by `drop` at least, and a joint in
front of it is no looser. -/
structure Eases (drop : Nat) (footing : Footing) (old new : List (List Char)) : Prop where
  /-- A joint in front of the list is no looser. -/
  isLoose_head : ∀ joint : Joint, joint.isLoose new = true → joint.isLoose old = true
  /-- The list has less slack. -/
  slack_add_le : slackFrom footing new + drop ≤ slackFrom footing old

namespace Eases

variable
  {drop : Nat}
  {footing : Footing}
  {old new : List (List Char)}

/-- What eases the slack behind an atom eases it with the atom. -/
theorem cons
    {atom : List Char}
    (eases : Eases drop (footing.next atom) old new) :
    Eases drop footing (atom :: old) (atom :: new) where
  isLoose_head := by
    intro joint loose
    cases isJoint : joint? atom with
    | none =>
        rw [Joint.isLoose_cons_of_none _ isJoint] at loose ⊢
        exact loose
    | some other =>
        rw [Joint.isLoose_cons _ isJoint, Bool.or_eq_true, Bool.and_eq_true] at loose ⊢
        exact loose.imp_right
          (And.imp (eases.isLoose_head other) (eases.isLoose_head joint))
  slack_add_le := by
    have exposes (exposed : footing.exposes new = true) : footing.exposes old = true := by
      cases footing with
      | conditional => exact eases.isLoose_head .condition exposed
      | _ => exact exposed
    have excessLe : excess footing atom new ≤ excess footing atom old := by
      unfold excess
      cases joint? atom with
      | none => exact Nat.le_refl 0
      | some joint =>
          exact Nat.add_le_add (ite_one_le_ite_one (eases.isLoose_head joint))
            (ite_one_le_ite_one (And.imp_right exposes))
    have slackLe := eases.slack_add_le
    rw [slackFrom, slackFrom]
    omega

/-- What eases the slack behind some atoms eases it with them. -/
theorem append
    {start : List (List Char)}
    (eases : Eases drop (start.foldl Footing.next footing) old new) :
    Eases drop footing (start ++ old) (start ++ new) := by
  induction start generalizing footing with
  | nil => exact eases
  | cons atom start inductionHypothesis => exact (inductionHypothesis eases).cons

end Eases

end Template
end TableReach
