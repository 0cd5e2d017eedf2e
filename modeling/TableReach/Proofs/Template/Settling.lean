import TableReach.Proofs.Template.Plain
import TableReach.Proofs.Template.Tightening
import Mathlib.Tactic.TFAE

/-!
# Repairs settle

A pass over the rules that changes a text lowers the effort it takes to settle it: its
slack, and one more if it lacks a head.  So passes settle every text, and the effort says
how many of them are enough.  No fixed number of them is enough for all texts: in a row of
commas that ends a list a pass finds only the last one.
-/

namespace TableReach
namespace Template

open Text

/-- No rule changes the text. -/
def IsStable (text : List Char) : Prop :=
  ∀ rule ∈ RepairRule.all, rule.mend? text = none

instance (text : List Char) : Decidable (IsStable text) :=
  inferInstanceAs (Decidable (∀ rule ∈ RepairRule.all, rule.mend? text = none))

/-- A rule would give the text a head. -/
def lacksHead (text : List Char) : Bool :=
  RepairRule.heading.any fun rule => (rule.mend? text).isSome

/-- How many passes settle a text at the most. -/
def effort (text : List Char) : Nat :=
  slack text + if lacksHead text then 1 else 0

/-- The text after a number of passes. -/
def afterPasses (count : Nat) (text : List Char) : List Char :=
  (Repaired.passes count { text := text, repairs := [] }).text

theorem slack_collapse (text : List Char) : slack (collapse text) = slack text := by
  rw [slack, atoms_collapse, slack]

theorem lacksHead_eq_false_iff
    {text : List Char} :
    lacksHead text = false ↔ ∀ rule ∈ RepairRule.heading, rule.mend? text = none := by
  simp only [lacksHead, List.any_eq_false, Bool.not_eq_true, Option.isSome_eq_false_iff,
    Option.isNone_iff_eq_none]

/-- A text with a head needs none. -/
theorem lacksHead_eq_false
    {text : List Char}
    (headed : ¬ IsHeadless (atoms text)) : lacksHead text = false := by
  rw [lacksHead_eq_false_iff]
  intro rule heads
  cases mended : rule.mend? text with
  | none => rfl
  | some changed => exact absurd (RepairRule.heads_of_mend? heads mended).1 headed

namespace Repaired

variable
  {state : Repaired}
  {rule : RepairRule}

theorem step_of_none
    (unchanged : rule.mend? state.text = none) : state.step rule = state := by
  rw [step, unchanged]

theorem text_step
    {changed : List Char}
    (mended : rule.mend? state.text = some changed) : (state.step rule).text = collapse changed := by
  rw [step, mended]

/-- Rules that take slack out change nothing or lower the slack. -/
theorem slack_foldl_step
    (rules : List RepairRule)
    (tighten : rules ⊆ RepairRule.tightening)
    (state : Repaired) :
    (∀ rule ∈ rules, rule.mend? state.text = none) ∧ rules.foldl step state = state ∨
      slack (rules.foldl step state).text < slack state.text := by
  induction rules generalizing state with
  | nil => exact Or.inl ⟨fun _ absent => absurd absent List.not_mem_nil, rfl⟩
  | cons rule rules inductionHypothesis =>
      rw [List.cons_subset] at tighten
      have later := inductionHypothesis tighten.2 (state.step rule)
      rw [List.foldl_cons]
      cases mended : rule.mend? state.text with
      | none =>
          rw [step_of_none mended] at later ⊢
          rcases later with ⟨unchanged, same⟩ | less
          · exact Or.inl ⟨List.forall_mem_cons.mpr ⟨mended, unchanged⟩, same⟩
          · exact Or.inr less
      | some changed =>
          have less := RepairRule.slack_lt_of_mend? tighten.1 mended
          rw [← slack_collapse, ← text_step mended] at less
          right
          rcases later with ⟨_, same⟩ | lessLater
          · rw [same]
            exact less
          · exact lessLater.trans less

/-- The last two rules of a pass give a text its head and add no slack. -/
theorem slack_foldl_heading
    (state : Repaired) :
    slack (RepairRule.heading.foldl step state).text ≤ slack state.text ∧
      lacksHead (RepairRule.heading.foldl step state).text = false := by
  change slack ((state.step .bareFrom).step .bareSelect).text ≤ _ ∧
    lacksHead ((state.step .bareFrom).step .bareSelect).text = false
  cases mended : RepairRule.bareFrom.mend? state.text with
  | none =>
      rw [step_of_none mended]
      cases mendedSelect : RepairRule.bareSelect.mend? state.text with
      | none =>
          rw [step_of_none mendedSelect]
          refine ⟨Nat.le_refl _, lacksHead_eq_false_iff.mpr ?_⟩
          simp only [RepairRule.heading, List.forall_mem_cons]
          exact ⟨mended, mendedSelect, fun _ absent => absurd absent List.not_mem_nil⟩
      | some changed =>
          obtain ⟨_, headed, less⟩ := RepairRule.heads_of_mend? (by decide) mendedSelect
          rw [text_step mendedSelect, slack_collapse]
          refine ⟨less, lacksHead_eq_false ?_⟩
          rwa [atoms_collapse]
  | some changed =>
      obtain ⟨_, headed, less⟩ := RepairRule.heads_of_mend? (by decide) mended
      have noHead : lacksHead (state.step .bareFrom).text = false := by
        apply lacksHead_eq_false
        rwa [text_step mended, atoms_collapse]
      have unchanged : RepairRule.bareSelect.mend? (state.step .bareFrom).text = none :=
        lacksHead_eq_false_iff.mp noHead .bareSelect (by decide)
      rw [step_of_none unchanged]
      refine ⟨?_, noHead⟩
      rwa [text_step mended, slack_collapse]

theorem pass_of_isStable
    (stable : IsStable state.text) : state.pass = state :=
  foldl_eq_self fun rule present => step_of_none (stable rule present)

/-- A pass over an unstable text lowers the effort. -/
theorem effort_pass
    (unstable : ¬ IsStable state.text) : effort state.pass.text < effort state.text := by
  have rules : RepairRule.all = RepairRule.tightening ++ RepairRule.heading := rfl
  have headed := slack_foldl_heading (RepairRule.tightening.foldl step state)
  rw [effort, effort, pass, rules, List.foldl_append, headed.2]
  rcases slack_foldl_step RepairRule.tightening (List.Subset.refl _) state with
    ⟨unchanged, same⟩ | less
  · have headless : lacksHead state.text = true := by
      rw [← Bool.not_eq_false, lacksHead_eq_false_iff]
      intro unchangedHead
      rw [IsStable, rules, List.forall_mem_append] at unstable
      exact unstable ⟨unchanged, unchangedHead⟩
    rw [same] at headed ⊢
    rw [headless]
    exact Nat.lt_succ_of_le headed.1
  · have more := headed.1
    simp only [Bool.false_eq_true, if_false]
    omega

theorem passes_of_isStable
    (count : Nat)
    (stable : IsStable state.text) : passes count state = state := by
  induction count with
  | zero => rfl
  | succ count inductionHypothesis => rw [passes, pass_of_isStable stable, inductionHypothesis]

/-- Passes never raise the effort. -/
theorem effort_passes_le
    (count : Nat)
    (state : Repaired) : effort (passes count state).text ≤ effort state.text := by
  induction count generalizing state with
  | zero => exact Nat.le_refl _
  | succ count inductionHypothesis =>
      by_cases stable : IsStable state.text
      · rw [passes_of_isStable _ stable]
      · exact (inductionHypothesis state.pass).trans (effort_pass stable).le

theorem isStable_of_passes
    {count : Nat}
    (same : (passes (count + 1) state).text = state.text) : IsStable state.text := by
  by_contra unstable
  have less := Nat.lt_of_le_of_lt (effort_passes_le count state.pass) (effort_pass unstable)
  rw [← same] at less
  exact Nat.lt_irrefl _ less

/-- As many passes as the effort of a text settle it. -/
theorem isStable_passes
    {count : Nat}
    (enough : effort state.text ≤ count) : IsStable (passes count state).text := by
  induction count generalizing state with
  | zero =>
      by_contra unstable
      exact Nat.not_lt_zero _ (Nat.lt_of_lt_of_le (effort_pass unstable) enough)
  | succ count inductionHypothesis =>
      by_cases stable : IsStable state.text
      · rwa [passes_of_isStable _ stable]
      · exact inductionHypothesis (Nat.le_of_lt_succ (Nat.lt_of_lt_of_le (effort_pass stable) enough))

theorem passes_add
    (first second : Nat)
    (state : Repaired) : passes (first + second) state = passes second (passes first state) := by
  induction first generalizing state with
  | zero => rw [Nat.zero_add, passes]
  | succ first inductionHypothesis =>
      rw [Nat.succ_add, passes, inductionHypothesis, passes]

/-- A rule that was used stays on record. -/
theorem eq_of_repairs_step
    (unused : (state.step rule).repairs = []) : state.step rule = state := by
  cases mended : rule.mend? state.text with
  | none => exact step_of_none mended
  | some changed =>
      rw [step, mended] at unused
      dsimp only at unused
      split at unused
      · next used =>
          rw [unused] at used
          exact absurd used List.not_mem_nil
      · exact absurd unused (List.concat_ne_nil _ _)

/-- Where no rule is on record nothing was changed. -/
theorem eq_of_repairs_passes
    {count : Nat}
    (unused : (passes count state).repairs = []) : passes count state = state := by
  have rules (tried : List RepairRule) {state : Repaired}
      (unused : (tried.foldl step state).repairs = []) : tried.foldl step state = state := by
    induction tried generalizing state with
    | nil => rfl
    | cons rule tried inductionHypothesis =>
        have same := inductionHypothesis unused
        rw [List.foldl_cons, same] at unused ⊢
        exact eq_of_repairs_step unused
  induction count generalizing state with
  | zero => rfl
  | succ count inductionHypothesis =>
      have same := inductionHypothesis unused
      rw [passes, same] at unused ⊢
      exact rules RepairRule.all unused

end Repaired

/-- Repairing leaves a text as it is exactly if it is stable, and then no rule is on record. -/
theorem isStable_iff_repair
    {text : List Char} :
    (IsStable text ↔ (repair text).text = text) ∧ (IsStable text ↔ (repair text).repairs = []) := by
  have kept (stable : IsStable text) : repair text = { text := text, repairs := [] } :=
    repair_eq_self stable
  constructor
  · constructor
    · intro stable
      rw [kept stable]
    · exact fun same => Repaired.isStable_of_passes same
  · constructor
    · intro stable
      rw [kept stable]
    · intro unused
      have same : repair text = { text := text, repairs := [] } :=
        Repaired.eq_of_repairs_passes unused
      have sameText : (repair text).text = text := congrArg Repaired.text same
      exact Repaired.isStable_of_passes sameText

/-- No keyword stands among commas. -/
theorem afterKeyword?_of_commas
    {word text : List Char}
    (commas : ∀ character ∈ text, character = ',')
    (something : word ≠ [])
    (letters : ',' ∉ word) : afterKeyword? word text = none := by
  obtain ⟨letter, others, rfl⟩ := List.exists_cons_of_ne_nil something
  cases text with
  | nil => rfl
  | cons character rest =>
      obtain rfl := commas character List.mem_cons_self
      have folded : fold ',' ≠ letter := by
        rintro rfl
        exact letters List.mem_cons_self
      rw [afterKeyword?, if_neg (by simpa using folded)]

namespace RepairRule

/-- Among commas nothing but a dangling comma is found. -/
theorem recognize_of_commas
    {rule : RepairRule}
    {text : List Char}
    (other : rule ≠ danglingComma)
    (before : Option Char)
    (commas : ∀ character ∈ text, character = ',') : rule.recognize before text = none := by
  have noBlanks : startsBlank text = false ∧ afterBlanks? text = none := by
    cases text with
    | nil => exact ⟨rfl, rfl⟩
    | cons character rest =>
        obtain rfl := commas character List.mem_cons_self
        exact ⟨rfl, rfl⟩
  have noFrom : afterKeyword? "FROM".toList text = none :=
    afterKeyword?_of_commas commas (by decide) (by decide)
  have noWhere : afterKeyword? "WHERE".toList text = none :=
    afterKeyword?_of_commas commas (by decide) (by decide)
  have noSelect : afterKeyword? "SELECT".toList text = none :=
    afterKeyword?_of_commas commas (by decide) (by decide)
  have noConnective : afterConnective? text = none := by
    rw [afterConnective?, afterKeyword?_of_commas commas (by decide) (by decide),
      afterKeyword?_of_commas commas (by decide) (by decide)]
  cases rule with
  | danglingComma => exact absurd rfl other
  | _ =>
      simp only [recognize, trimLeft_of_startsBlank noBlanks.1, noBlanks.2, afterKeywordAndBlanks?,
        noFrom, noWhere, noSelect, noConnective, Option.bind_eq_bind, Option.bind_none,
        Option.bind_fun_none]

/-- No other rule changes a row of commas. -/
theorem mend?_replicate
    {rule : RepairRule}
    (other : rule ≠ danglingComma)
    (count : Nat) : rule.mend? (List.replicate count ',') = none := by
  have misses : Misses rule.recognize (List.replicate count ',') := by
    intro before rest suffix
    apply recognize_of_commas other before
    exact fun character present => List.eq_of_mem_replicate (suffix.subset present)
  rw [mend?, misses.replaceAll_eq]
  simp

/-- Of a row of commas the last one dangles. -/
theorem replaceAll_danglingComma
    (count : Nat) :
    replaceAll danglingComma.recognize (List.replicate (count + 1) ',') =
      List.replicate count ',' ++ [' '] := by
  induction count with
  | zero => rfl
  | succ count inductionHypothesis =>
      have missed : danglingComma.recognize none (',' :: List.replicate (count + 1) ',') = none := rfl
      have kept := replaceAll_cons missed
      rw [List.replicate_succ, List.replicate_succ, List.cons_append, ← inductionHypothesis]
      exact kept

/-- Leaving out the last comma of a row makes it shorter. -/
theorem mend?_danglingComma
    (count : Nat) :
    ∃ changed, danglingComma.mend? (List.replicate (count + 1) ',') = some changed ∧
      collapse changed = List.replicate count ',' := by
  refine ⟨List.replicate count ',' ++ [' '], mend?_eq_some_iff.mpr ⟨replaceAll_danglingComma _, ?_⟩, ?_⟩
  · intro same
    have space : ' ' ∈ List.replicate (count + 1) ',' := same ▸ by simp
    exact absurd (List.eq_of_mem_replicate space) (by decide)
  · have onLine : line (List.replicate count ',' ++ [' ']) = List.replicate count ',' := by
      induction count with
      | zero => rfl
      | succ count inductionHypothesis =>
          rw [List.replicate_succ, List.cons_append, line_cons_of_not_isBlank _ rfl,
            inductionHypothesis]
    cases count with
    | zero => rfl
    | succ count =>
        rw [collapse_eq_line_trimLeft, trimLeft_of_startsBlank rfl, onLine]

end RepairRule

/-- A pass leaves out one of a row of commas. -/
theorem Repaired.text_pass_replicate
    {state : Repaired}
    {count : Nat}
    (commas : state.text = List.replicate (count + 1) ',') :
    state.pass.text = List.replicate count ',' := by
  have others {tried : List RepairRule} {state : Repaired} {count : Nat}
      (noComma : RepairRule.danglingComma ∉ tried)
      (commas : state.text = List.replicate count ',') : tried.foldl step state = state := by
    refine foldl_eq_self fun rule present => step_of_none ?_
    rw [commas]
    exact RepairRule.mend?_replicate (ne_of_mem_of_not_mem present noComma) count
  obtain ⟨changed, mended, collapsed⟩ := RepairRule.mend?_danglingComma count
  rw [← commas] at mended
  have stepped : (state.step .danglingComma).text = List.replicate count ',' :=
    (text_step mended).trans collapsed
  have rules : RepairRule.all =
      RepairRule.all.take 7 ++ .danglingComma :: RepairRule.all.drop 8 := rfl
  rw [pass, rules, List.foldl_append, others (by decide) commas, List.foldl_cons,
    others (by decide) stepped, stepped]

/-- A number of passes leaves out as many of a row of commas. -/
theorem Repaired.text_passes_replicate
    {state : Repaired}
    (count : Nat)
    {more : Nat}
    (commas : state.text = List.replicate (count + more) ',') :
    (passes count state).text = List.replicate more ',' := by
  induction count generalizing state with
  | zero => rwa [Nat.zero_add] at commas
  | succ count inductionHypothesis =>
      rw [Nat.succ_add] at commas
      exact inductionHypothesis (text_pass_replicate commas)

/-- Every comma is an atom. -/
theorem atoms_replicate
    (count : Nat) : atoms (List.replicate count ',') = List.replicate count [','] := by
  have alone : atoms [','] = [[',']] := by decide
  induction count with
  | zero => rfl
  | succ count inductionHypothesis =>
      have seam : IsSeam [','] (List.replicate count ',') := Or.inl (by decide)
      rw [List.replicate_succ, ← List.singleton_append, atoms_append seam, alone,
        inductionHypothesis, List.singleton_append, List.replicate_succ]

/-- A comma in front of a row of commas is as loose as the row. -/
theorem isLoose_commas
    (count : Nat)
    (list : List (List Char)) :
    Joint.comma.isLoose (List.replicate count [','] ++ list) = Joint.comma.isLoose list := by
  have isComma : joint? [','] = some .comma := by decide
  induction count with
  | zero => rfl
  | succ count inductionHypothesis =>
      rw [List.replicate_succ, List.cons_append, Joint.isLoose_cons _ isComma, inductionHypothesis,
        Bool.and_self]
      rfl

/-- Every comma of a row has slack if the row ends its list, and else none has. -/
theorem slackFrom_commas
    {footing : Footing}
    (outside : footing.inName = false)
    (count : Nat)
    (list : List (List Char)) :
    slackFrom footing (List.replicate (count + 1) [','] ++ list) =
      (if Joint.comma.isLoose list then count + 1 else 0) + slackFrom .firm list := by
  have isComma : joint? [','] = some .comma := by decide
  have behind {footing : Footing} (outside : footing.inName = false) :
      footing.behind .comma = .firm := by
    rw [← Footing.next_of_joint? _ isComma, Footing.next_of_inName outside]
    decide
  induction count generalizing footing with
  | zero =>
      rw [List.replicate_one, List.singleton_append, slackFrom_of_joint? _ _ isComma (by decide),
        behind outside]
  | succ count inductionHypothesis =>
      rw [List.replicate_succ, List.cons_append, slackFrom_of_joint? _ _ isComma (by decide),
        behind outside, isLoose_commas, inductionHypothesis rfl]
      split <;> omega

/-- A row of commas takes one pass for each of them. -/
theorem effort_replicate
    (count : Nat) : effort (List.replicate count ',') = count := by
  have headed : lacksHead (List.replicate count ',') = false := by
    rw [lacksHead_eq_false_iff]
    exact fun rule heads =>
      RepairRule.mend?_replicate (ne_of_mem_of_not_mem heads (by decide)) count
  have counted : slackFrom .bare (List.replicate count [',']) = count := by
    cases count with
    | zero => rfl
    | succ count =>
        have row := slackFrom_commas (rfl : Footing.bare.inName = false) count []
        rwa [List.append_nil] at row
  rw [effort, slack, atoms_replicate, counted, headed]
  rfl

/-- Repairs settle.  As many passes as the effort of a text leave it stable, so `passLimit` passes do
if the effort is no more than that.  A repaired text is stable exactly if repairing it again gives the
same text, exactly if no rule is used then, and exactly if further passes change nothing.  No fixed
number of passes settles every text. -/
theorem repair_settles :
    (∀ text : List Char,
      (∀ count, effort text ≤ count → IsStable (afterPasses count text)) ∧
        (effort text ≤ passLimit → IsStable (repair text).text) ∧
          [IsStable (repair text).text,
            (repair (repair text).text).text = (repair text).text,
            (repair (repair text).text).repairs = [],
            ∀ count, passLimit ≤ count → afterPasses count text = (repair text).text].TFAE) ∧
      ∀ count, ∃ text, effort text = count + 1 ∧ ¬ IsStable (afterPasses count text) := by
  constructor
  · intro text
    have settled (count : Nat) (enough : effort text ≤ count) : IsStable (afterPasses count text) :=
      Repaired.isStable_passes enough
    refine ⟨settled, settled passLimit, ?_⟩
    tfae_have 1 ↔ 2 := isStable_iff_repair.1
    tfae_have 1 ↔ 3 := isStable_iff_repair.2
    tfae_have 1 → 4 := by
      intro stable count enough
      obtain ⟨more, rfl⟩ := Nat.exists_eq_add_of_le enough
      rw [afterPasses, Repaired.passes_add]
      exact congrArg Repaired.text (Repaired.passes_of_isStable more stable)
    tfae_have 4 → 1 := by
      intro further
      have same := further (passLimit + 1) (Nat.le_succ _)
      rw [afterPasses, Repaired.passes_add] at same
      exact Repaired.isStable_of_passes same
    tfae_finish
  · intro count
    refine ⟨List.replicate (count + 1) ',', effort_replicate _, ?_⟩
    rw [afterPasses, Repaired.text_passes_replicate count rfl]
    decide

/-- A statement with four joints out of place is settled. -/
theorem settled_of_four_fragments :
    effort "SELECT a, FROM t WHERE AND b = 1 AND OR".toList = passLimit ∧
      IsStable (repair "SELECT a, FROM t WHERE AND b = 1 AND OR".toList).text := by
  have enough : effort "SELECT a, FROM t WHERE AND b = 1 AND OR".toList = passLimit := by
    decide +kernel
  exact ⟨enough, (repair_settles.1 _).2.1 enough.le⟩

/-- A statement with five commas out of place is not: one of them is left. -/
theorem unsettled_of_five_commas :
    (repair "SELECT a,,,,, FROM t".toList).text = "SELECT a, FROM t".toList ∧
      ¬ IsStable (repair "SELECT a,,,,, FROM t".toList).text := by
  have repaired : (repair "SELECT a,,,,, FROM t".toList).text = "SELECT a, FROM t".toList := by
    decide +kernel
  refine ⟨repaired, ?_⟩
  rw [repaired]
  decide +kernel

end Template
end TableReach
