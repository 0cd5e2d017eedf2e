import TableReach.Template.Normal
import TableReach.Template.Repair
import TableReach.Template.Shape

/-!
# Prepared statements

Preparing a template makes it a statement that can be read: normal form, repair,
and a check of its shape.  A text without the shape of a statement is replaced by
a harmless one.
-/

namespace TableReach
namespace Template

/-- A template made ready to be read. -/
structure Prepared where
  /-- The statement. -/
  sql : List Char
  /-- The text had no statement shape and `sql` only stands in for it. -/
  isStandIn : Bool
  /-- How many placeholders the template held. -/
  placeholders : Nat
  /-- How many tags the template held. -/
  tags : Nat
  /-- The repair rules used. -/
  repairs : List RepairRule
deriving DecidableEq

/-- The statement that stands in for a text without statement shape. -/
def standIn : List Char := "SELECT 1".toList

/-- Prepare a template. -/
def prepare (text : List Char) : Prepared :=
  let normal := normalize text
  let repaired := repair normal.text
  let shaped := hasStatementShape repaired.text
  { sql := if shaped then repaired.text else standIn
    isStandIn := !shaped
    placeholders := normal.placeholders
    tags := normal.tags
    repairs := repaired.repairs }

end Template
end TableReach
