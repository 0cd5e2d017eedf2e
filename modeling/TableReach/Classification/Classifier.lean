import TableReach.Failure
import TableReach.Template.Prepared
import TableReach.Sql.Grammar.Statement
import TableReach.Classification.Cache
import TableReach.Classification.Statement

/-!
# Classification of a text

A text is prepared, read and classified by its first statement.  Where it cannot
be prepared or read, the keywords of the raw text decide.  Results are kept in a
cache.
-/

namespace TableReach

/-- The texts of rules between square brackets. -/
def quotedList (names : List String) : String :=
  "[" ++ ", ".intercalate (names.map fun name => "\"" ++ name ++ "\"") ++ "]"

namespace Classification

/-- Classify a text by its keywords, for the given reason. -/
def degrade (reason : String) (raw : List Char) : Logged Classification := do
  Logged.leave .debug "using keyword fallback" [("reason", reason)]
  return Keyword.classify raw

/-- Classify a text without a cache. -/
def ofText (dialect : Sql.Dialect) (raw : List Char) : Logged Classification := do
  let prepared := Template.prepare raw
  if !prepared.repairs.isEmpty then
    Logged.leave .trace "repaired SQL fragments"
      [("repairs", quotedList (prepared.repairs.map Template.RepairRule.name))]
  if prepared.isStandIn then degrade "text failed structural validation" raw
  else
    match Sql.Grammar.statements? dialect prepared.sql with
    | none => degrade Kind.badRequest.label raw
    | some [] => degrade "no statement found" raw
    | some (first :: _) => ofStatement prepared.sql first

end Classification

/-- A classifier: a dialect and what it has classified so far. -/
structure Classifier where
  /-- The dialect of the texts. -/
  dialect : Sql.Dialect
  /-- What was classified so far. -/
  cache : Cache

namespace Classifier

/-- The usual capacity of the cache. -/
def usualCapacity : Nat := 1000

/-- A classifier that has classified nothing. -/
def fresh (dialect : Sql.Dialect) (capacity : Nat) : Classifier :=
  { dialect := dialect, cache := Cache.empty capacity }

/-- Classify a text. -/
def classifyText
    (evict : Eviction)
    (classifier : Classifier)
    (raw : String) : Logged (Classification × Classifier) := do
  if Text.allBlank raw.toList then return (Classification.ofBlank, classifier)
  match classifier.cache.find? raw with
  | some found =>
      Logged.leave .trace "classification cache hit" []
      return (found, classifier)
  | none =>
      let found ← Classification.ofText classifier.dialect raw.toList
      Logged.leave .debug "classified SQL"
        [("sql", preview raw.toList), ("operation", found.operation.name),
          ("stage", found.stage.name),
          ("tables", toString (found.targets.length + found.references.length))]
      return (found, { classifier with cache := classifier.cache.insert evict raw found })

/-- Classify a text that may be absent. -/
def classify
    (evict : Eviction)
    (classifier : Classifier)
    (raw : Option String) : Logged (Except Failure Classification × Classifier) := do
  match raw with
  | none => return (.error .absentStatement, classifier)
  | some text =>
      let (found, after) ← classifier.classifyText evict text
      return (.ok found, after)

end Classifier
end TableReach
