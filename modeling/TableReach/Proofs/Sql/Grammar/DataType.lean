import TableReach.Sql.Grammar.DataType
import TableReach.Proofs.Sql.Grammar.Name

/-!
# Data types stop at a semicolon
-/

namespace TableReach
namespace Sql
namespace Grammar

set_option synthInstance.maxSize 4096

instance : Stops characterLength := by
  unfold characterLength
  infer_instance

instance : Stops byteLength := by
  unfold byteLength
  infer_instance

instance : Stops unsignedMark := by
  unfold unsignedMark
  infer_instance

instance : Stops (integerMarks word) := by
  unfold integerMarks
  infer_instance

instance : Stops timeZone := by
  unfold timeZone
  infer_instance

instance : Stops stringList := by
  unfold stringList
  infer_instance

instance : Stops enumerationMembers := by
  unfold enumerationMembers
  infer_instance

instance : Stops intervalFields := by
  unfold intervalFields
  refine Stops.followedBy fun found => ?_
  split <;> infer_instance

instance : Stops characterType := by
  unfold characterType
  infer_instance

instance : Stops typeModifier := by
  unfold typeModifier
  refine Stops.bind_next (fun lexeme => ?_) fun _ _ _ => rfl
  split <;> infer_instance

instance : Takes always typeModifier := by
  unfold typeModifier
  refine Takes.followedBy fun lexeme => ?_
  split <;> infer_instance

instance : Stops customType := by
  unfold customType
  infer_instance

instance : Stops (closingAngle taken) := by
  unfold closingAngle
  infer_instance

section Composite

variable (levels : Levels) [levels.Stop] (inner : Reader TypeRead) [Stops inner]

instance : Stops (recordField levels inner) := by
  unfold recordField
  infer_instance

instance (limit : Nat) (taken : Bool) : Stops (fieldsFrom levels inner limit taken) := by
  induction limit generalizing taken with
  | zero => exact Stops.pure _
  | succ limit inductionHypothesis =>
      unfold fieldsFrom
      infer_instance

/-- Each further field takes a comma. -/
theorem agrees_fieldsFrom
    {bound limit other : Nat}
    (le : bound ≤ limit)
    (leOther : bound ≤ other)
    (taken : Bool) :
    Agrees bound (fieldsFrom levels inner limit taken) (fieldsFrom levels inner other taken) := by
  refine Agrees.of_step (fieldsFrom levels inner) 0 (fun limit other taken => ?_)
    (fun bound limit other agree taken => ?_) le leOther taken
  · have ends (limit : Nat) (context : Context) :
        fieldsFrom levels inner limit taken context [] = .ok (taken, []) := by
      cases limit <;> cases taken <;> rfl
    exact Agrees.of_nil _ (ends limit) (ends other)
  · unfold fieldsFrom
    infer_instance

instance : Stops (furtherFields levels inner taken) := by
  unfold furtherFields
  exact Stops.bind_remaining (fun _ => inferInstance) fun _ _ _ le leOther =>
    agrees_fieldsFrom levels inner le leOther taken

instance : Stops (recordFields levels inner) := by
  unfold recordFields
  infer_instance

instance : Goes (compositeType levels inner word) := by
  unfold compositeType
  dsimp only
  split <;> infer_instance

omit [levels.Stop] [Stops inner] in
/-- Where no type is read, nothing is taken. -/
theorem eq_of_compositeType
    {context : Context}
    {lexemes rest : List Lexeme}
    (read : compositeType levels inner word context lexemes = .ok (none, rest)) :
    rest = lexemes := by
  unfold compositeType at read
  dsimp only at read
  split at read
  case h_8 =>
    cases read
    rfl
  all_goals exact absurd read Gives.ne_none

instance : Goes (simpleType levels word) := by
  unfold simpleType
  dsimp only
  repeat' split
  all_goals infer_instance

instance : Stops (elementType levels inner) := by
  unfold elementType
  refine Stops.bind_nextKeyword (fun keyword => ?_) ?_
  · have simple : Goes (do
        match ← simpleType levels keyword with
        | some found => return (found, false)
        | none => return (← customType, false)) := by
      refine Goes.followedBy fun found => ?_
      split <;> infer_instance
    dsimp only
    split
    · infer_instance
    · refine Goes.followedLeaving fun generic => ?_
      split
      · exact Goes.bind_option (eq_of_compositeType levels inner) simple fun _ => inferInstance
      · exact simple
  · have noComposite : compositeType levels inner "" = pure none := rfl
    have noSimple : simpleType levels "" = pure none := rfl
    have noArray : ("" == "ARRAY") = false := by decide
    simp only [noArray, noComposite, noSimple, Bool.false_eq_true, if_false, pure_bind]
    infer_instance

end Composite

section Nested

variable (levels : Levels) [levels.Stop]

section Inner

variable (inner other : Reader TypeRead) [Stops inner] [Agrees bound inner other]

instance : Agrees bound (recordField levels inner) (recordField levels other) := by
  unfold recordField
  infer_instance

instance (limit : Nat) (taken : Bool) :
    Agrees bound (fieldsFrom levels inner limit taken) (fieldsFrom levels other limit taken) := by
  induction limit generalizing taken with
  | zero => exact Agrees.refl _ _
  | succ limit inductionHypothesis =>
      unfold fieldsFrom
      infer_instance

instance :
    Agrees bound (furtherFields levels inner taken) (furtherFields levels other taken) := by
  unfold furtherFields
  infer_instance

instance : Agrees bound (recordFields levels inner) (recordFields levels other) := by
  unfold recordFields
  infer_instance

instance :
    Agrees (bound + 1) (compositeType levels inner word) (compositeType levels other word) := by
  unfold compositeType
  dsimp only
  split <;> infer_instance

instance : Agrees (bound + 1) (elementType levels inner) (elementType levels other) := by
  unfold elementType
  refine Agrees.followedBy fun keyword => ?_
  dsimp only
  split
  · infer_instance
  · refine Agrees.followedBy fun generic => ?_
    split
    · refine Agrees.followedBy fun found => ?_
      split <;> infer_instance
    · infer_instance

end Inner

instance (depth : Nat) : Stops (nestedType levels depth) := by
  induction depth with
  | zero => exact Stops.unexpected
  | succ depth inductionHypothesis =>
      unfold nestedType
      infer_instance

/-- A type that holds other types takes a lexeme before these. -/
theorem agrees_nestedType
    {bound depth other : Nat}
    (below : bound < depth)
    (belowOther : bound < other) :
    Agrees bound (nestedType levels depth) (nestedType levels other) := by
  refine Agrees.of_step (fun depth _ => nestedType levels depth) 1 (fun depth other _ => ?_)
    (fun bound depth other agree _ => ?_) below belowOther ()
  · have ends (depth : Nat) (context : Context) :
        nestedType levels (depth + 1) context [] = .error .unexpected := by
      rcases context with ⟨_ | _ | _ | _, place⟩ <;> rfl
    exact Agrees.of_nil _ (ends depth) (ends other)
  · have agreeInside := agree ()
    unfold nestedType
    infer_instance

instance : Stops (innerType levels) := by
  unfold innerType
  exact Stops.bind_remaining (fun _ => inferInstance) fun _ _ _ le leOther =>
    agrees_nestedType levels (Nat.lt_succ_of_le le) (Nat.lt_succ_of_le leOther)

instance : Stops (dataType levels) := by
  unfold dataType
  infer_instance

end Nested

end Grammar
end Sql
end TableReach
