import TableReach.Template.Prepared
import TableReach.Proofs.Template.Shape

/-!
# Prepared texts

A prepared text that is no stand-in stands on one line, whatever was repaired on the
way, and starts with the keyword of a statement and a space.
-/

namespace TableReach
namespace Template

open Text

/-- The text is the collapsed form of some text. -/
def IsCollapsed (text : List Char) : Prop :=
  ∃ source, text = collapse source

theorem Repaired.isCollapsed_step
    {state : Repaired}
    (rule : RepairRule)
    (collapsed : IsCollapsed state.text) : IsCollapsed (state.step rule).text := by
  unfold step
  split
  · exact collapsed
  · next changed _ => exact ⟨changed, rfl⟩

/-- A pass leaves a text on one line. -/
theorem Repaired.isCollapsed_pass
    {state : Repaired}
    (collapsed : IsCollapsed state.text) : IsCollapsed state.pass.text := by
  have rules (tried : List RepairRule) {state : Repaired} (collapsed : IsCollapsed state.text) :
      IsCollapsed (tried.foldl step state).text := by
    induction tried generalizing state with
    | nil => exact collapsed
    | cons rule others inductionHypothesis =>
        exact inductionHypothesis (isCollapsed_step rule collapsed)
  exact rules RepairRule.all collapsed

theorem Repaired.isCollapsed_passes
    (count : Nat)
    {state : Repaired}
    (collapsed : IsCollapsed state.text) : IsCollapsed (passes count state).text := by
  induction count generalizing state with
  | zero => exact collapsed
  | succ count inductionHypothesis => exact inductionHypothesis (isCollapsed_pass collapsed)

theorem isCollapsed_normalize (text : List Char) : IsCollapsed (normalize text).text := by
  unfold normalize
  dsimp only
  exact Exists.intro _ (Eq.refl _)

/-- A repaired text stands on one line. -/
theorem isCollapsed_repair
    {text : List Char}
    (collapsed : IsCollapsed text) : IsCollapsed (repair text).text := by
  unfold repair
  exact Repaired.isCollapsed_passes passLimit collapsed

/-- A text that is no stand-in stands on one line and has the shape of a statement. -/
theorem isCollapsed_of_prepare
    {text : List Char}
    (accepted : (prepare text).isStandIn = false) :
    IsCollapsed (prepare text).sql ∧ hasStatementShape (prepare text).sql = true := by
  have collapsed := isCollapsed_repair (isCollapsed_normalize text)
  unfold prepare at accepted ⊢
  dsimp only at accepted ⊢
  generalize repair (normalize text).text = repaired at *
  rw [Bool.not_eq_false'] at accepted
  rw [if_pos accepted]
  exact ⟨collapsed, accepted⟩

/-- No letter turns into a blank in upper case. -/
theorem isBlank_of_toUpper
    {character : Char}
    (blank : isBlank character.toUpper = true) : isBlank character = true := by
  by_cases lower : character.val ≥ 'a'.val ∧ character.val ≤ 'z'.val
  · have ascii : character.toNat < 128 :=
      Nat.lt_of_le_of_lt (UInt32.le_iff_toNat_le.mp lower.2) (by decide)
    have checked : ∀ code < 128, isBlank (Char.ofNat code).toUpper = true →
        isBlank (Char.ofNat code) = true := by
      decide
    have found := checked character.toNat ascii
    rw [Char.ofNat_toNat] at found
    exact found blank
  · have same : character.toUpper = character := dif_neg lower
    rwa [same] at blank

/-- A text on one line with the shape of a statement starts with a keyword and a space. -/
theorem exists_keyword_of_hasStatementShape
    {text : List Char}
    (collapsed : IsCollapsed text)
    (shaped : hasStatementShape text = true) :
    ∃ word more, text = word ++ ' ' :: more ∧ word.map Char.toUpper ∈ openingKeywords := by
  obtain ⟨source, equal⟩ := collapsed
  rw [hasStatementShape, equal, trim_collapse, ← equal] at shaped
  simp only [Bool.and_eq_true] at shaped
  obtain ⟨keyword, known, opens⟩ := List.any_eq_true.mp shaped.1.1.1
  rw [opensWith, Bool.and_eq_true, List.isPrefixOf_iff_prefix] at opens
  obtain ⟨⟨tail, split⟩, blank⟩ := opens
  obtain ⟨word, behind, rfl, rfl, rfl⟩ := List.map_eq_append_iff.mp split.symm
  rw [List.map_append, List.drop_left] at blank
  cases behind with
  | nil => cases blank
  | cons next more =>
      have inside : next ∈ collapse source := equal ▸ List.mem_append_right _ List.mem_cons_self
      obtain rfl := eq_space_of_mem_collapse inside (isBlank_of_toUpper blank)
      exact ⟨word, more, rfl, known⟩

end Template
end TableReach
