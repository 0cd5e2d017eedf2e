import TableReach.Operation

/-!
# Classifications

A classification says what a statement does, which tables it writes and which it
reads, and which stage of the analysis found that out.
-/

namespace TableReach

/-- The stage of the analysis that gave a classification. -/
inductive Stage where
  /-- The text is blank. -/
  | empty
  /-- The tree of the statement. -/
  | structured
  /-- The sources of the query alone. -/
  | shapeWalk
  /-- Keywords in the prepared text. -/
  | keywordSearch
  /-- Keywords in the raw text. -/
  | fallback
deriving DecidableEq

/-- The name of a stage. -/
def Stage.name : Stage → String
  | empty => "empty"
  | structured => "structured"
  | shapeWalk => "shape-walk"
  | keywordSearch => "keyword-regex"
  | fallback => "fallback"

/-- What a statement does, and with which tables. -/
structure Classification where
  /-- What the statement does. -/
  operation : Operation
  /-- The tables it writes. -/
  targets : List String
  /-- The tables it reads. -/
  references : List String
  /-- The stage that found this out. -/
  stage : Stage
deriving DecidableEq

namespace Classification

/-- The classification of a blank text. -/
def ofBlank : Classification :=
  { operation := .select, targets := [], references := [], stage := .empty }

/-- The tables of a statement, written ones first, each once. -/
def tables (classification : Classification) : List String :=
  (classification.targets ++ classification.references).eraseDups

end Classification
end TableReach
