import TableReach.Proofs.Classification.Coherence
import TableReach.Proofs.Template.Plain

/-!
# Answers of a classifier

What a classifier has classified before cannot be seen in its answers: after any
texts, whatever its cache has lost on the way, it answers as it did at first.  The
answer itself is that of the first statement that can be read in the prepared text,
else that of the keywords.
-/

namespace TableReach

namespace Classification

/-- The first statement that is read in a text after preparing it; none where the keywords of the
text decide. -/
def firstRead? (dialect : Sql.Dialect) (raw : List Char) : Option Sql.Statement :=
  let prepared := Template.prepare raw
  if prepared.isStandIn then none
  else (Sql.Grammar.statements? dialect prepared.sql).bind List.head?

/-- A text is classified by the first statement that is read in it, else by its keywords. -/
theorem value_ofText
    (dialect : Sql.Dialect)
    (raw : List Char) :
    (ofText dialect raw).value =
      match firstRead? dialect raw with
      | some first => (ofStatement (Template.prepare raw).sql first).value
      | none => Keyword.classify raw := by
  unfold ofText firstRead? degrade
  generalize Template.prepare raw = prepared
  -- The event about repairs does not enter the value.
  have decided : ∀ event : Bool, ∀ found : Logged Classification,
      (if event then (do
        Logged.leave .trace "repaired SQL fragments"
          [("repairs", quotedList (prepared.repairs.map Template.RepairRule.name))]
        found) else found).value = found.value := by
    rintro (_ | _) found <;> rfl
  cases standIn : prepared.isStandIn with
  | true =>
      simp only [decided, standIn, if_true]
      rfl
  | false =>
      simp only [decided, standIn, Bool.false_eq_true, if_false]
      rcases Sql.Grammar.statements? dialect prepared.sql with _ | _ | ⟨first, later⟩ <;> rfl

/-- A text in which a statement is read is classified by the first one. -/
theorem ofRaw_of_statements
    {dialect : Sql.Dialect}
    {raw : String}
    {first : Sql.Statement}
    {later : List Sql.Statement}
    (accepted : (Template.prepare raw.toList).isStandIn = false)
    (parsed : Sql.Grammar.statements? dialect (Template.prepare raw.toList).sql =
      some (first :: later)) :
    ofRaw dialect raw = (ofStatement (Template.prepare raw.toList).sql first).value := by
  have written : Text.allBlank raw.toList ≠ true := by
    intro blank
    rw [Template.isStandIn_of_allBlank blank] at accepted
    exact nomatch accepted
  have isFirst : firstRead? dialect raw.toList = some first := by
    simp only [firstRead?, accepted, parsed]
    rfl
  rw [ofRaw, if_neg written, value_ofText, isFirst]

end Classification

namespace Classifier

/-- The classifier after it has classified texts one after the other, each with a choice of the
entries that go when the cache is full. -/
def afterTexts (classifier : Classifier) : List (Eviction × String) → Classifier
  | [] => classifier
  | (evict, text) :: later => (classifier.classifyText evict text).value.2.afterTexts later

theorem Coherent.afterTexts
    {classifier : Classifier}
    (coherent : classifier.Coherent)
    (history : List (Eviction × String)) : (classifier.afterTexts history).Coherent := by
  induction history generalizing classifier with
  | nil => exact coherent
  | cons step later inductionHypothesis =>
      exact inductionHypothesis (coherent.classifyText_snd step.1 step.2)

@[simp] theorem dialect_afterTexts
    (classifier : Classifier)
    (history : List (Eviction × String)) :
    (classifier.afterTexts history).dialect = classifier.dialect := by
  induction history generalizing classifier with
  | nil => rfl
  | cons step later inductionHypothesis =>
      rw [afterTexts, inductionHypothesis, dialect_classifyText]

theorem classifyText_afterTexts
    (dialect : Sql.Dialect)
    (capacity : Nat)
    (history : List (Eviction × String))
    (evict : Eviction)
    (text : String) :
    (((fresh dialect capacity).afterTexts history).classifyText evict text).value.1 =
      Classification.ofRaw dialect text := by
  rw [((Coherent.fresh dialect capacity).afterTexts history).classifyText_fst, dialect_afterTexts]
  rfl

end Classifier
end TableReach
