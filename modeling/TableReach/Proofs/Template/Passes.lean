import TableReach.Template.Repair

/-!
# Passes of repair

A pass tries one rule after the other, and repairing is a number of passes.  What every
rule keeps, a pass keeps, and so does repairing.
-/

namespace TableReach
namespace Template

open Text

/-- A rule mends a text by putting something else in the place of its matches. -/
theorem RepairRule.mend?_eq_some_iff
    {rule : RepairRule}
    {text changed : List Char} :
    rule.mend? text = some changed ↔ replaceAll rule.recognize text = changed ∧ changed ≠ text := by
  unfold mend?
  dsimp only
  constructor
  · intro mended
    split at mended
    · cases mended
    · next different =>
        obtain rfl := Option.some_inj.mp mended
        exact ⟨rfl, by simpa using different⟩
  · rintro ⟨rfl, different⟩
    rw [if_neg (by simpa using different)]

theorem RepairRule.mend?_eq_none_iff
    {rule : RepairRule}
    {text : List Char} : rule.mend? text = none ↔ replaceAll rule.recognize text = text := by
  simp [mend?]

namespace Repaired

variable
  {motive : List Char → Prop}

/-- What a rule keeps is kept where the rule is tried. -/
theorem step_induction
    (mended : ∀ {rule : RepairRule} {text changed : List Char},
      rule.mend? text = some changed → motive text → motive (collapse changed))
    {state : Repaired}
    (rule : RepairRule)
    (holds : motive state.text) : motive (state.step rule).text := by
  unfold step
  split
  · exact holds
  · next changed found => exact mended found holds

/-- What every rule keeps is kept by trying rules one after the other. -/
theorem foldl_step_induction
    (mended : ∀ {rule : RepairRule} {text changed : List Char},
      rule.mend? text = some changed → motive text → motive (collapse changed))
    (rules : List RepairRule)
    {state : Repaired}
    (holds : motive state.text) : motive (rules.foldl step state).text := by
  induction rules generalizing state with
  | nil => exact holds
  | cons rule others inductionHypothesis =>
      exact inductionHypothesis (step_induction mended rule holds)

/-- What every rule keeps is kept by passes. -/
theorem passes_induction
    (mended : ∀ {rule : RepairRule} {text changed : List Char},
      rule.mend? text = some changed → motive text → motive (collapse changed))
    (count : Nat)
    {state : Repaired}
    (holds : motive state.text) : motive (passes count state).text := by
  induction count generalizing state with
  | zero => exact holds
  | succ count inductionHypothesis =>
      exact inductionHypothesis (foldl_step_induction mended RepairRule.all holds)

end Repaired

/-- What every rule keeps is kept by repairing. -/
theorem repair_induction
    {motive : List Char → Prop}
    (mended : ∀ {rule : RepairRule} {text changed : List Char},
      rule.mend? text = some changed → motive text → motive (collapse changed))
    {text : List Char}
    (holds : motive text) : motive (repair text).text :=
  Repaired.passes_induction mended passLimit holds

end Template
end TableReach
