import TableReach.Text.Search

/-!
# Failures

Everything that can go wrong, by cause.  A failure has a kind, which says whose
fault it is, and a message; the short label of the kind is what a run shows.
-/

namespace TableReach

/-- Whose fault a failure is. -/
inductive Kind where
  | badRequest
  | internal
deriving DecidableEq

/-- The label of a kind. -/
def Kind.label : Kind → String
  | badRequest => "Bad request"
  | internal => "Internal server error"

/-- What went wrong. -/
inductive Failure where
  /-- A file cannot be read. -/
  | unreadableFile (path reason : String)
  /-- The facts are not what they should be. -/
  | invalidFacts (origin reason : String)
  /-- A mapping has no statement text. -/
  | absentStatement
  /-- A statement cannot be read. -/
  | invalidStatement (reason : String)
  /-- A file of settings cannot be read. -/
  | unreadableSettings (reason : String)
  /-- A file of settings is not what it should be. -/
  | malformedSettings (reason : String)
  /-- The environment names no dialect. -/
  | unknownDialect (name : String)
  /-- The environment does not say whether endpoints may be analysed side by side. -/
  | unclearParallel (value : String)
  /-- The settings are not what they should be for another reason. -/
  | invalidSettings (message : String)
deriving DecidableEq

/-- A place in a statement. -/
structure Position where
  /-- The line, counted from one. -/
  line : Nat
  /-- The column, counted from one. -/
  column : Nat
deriving DecidableEq

namespace Position

/-- The number that decimal digits stand for. -/
def decimal (digits : List Char) : Nat :=
  digits.foldl (fun total digit => total * 10 + (digit.toNat - '0'.toNat)) 0

/-- A number of 64 bits in decimal digits; a plus sign may stand before them. -/
def count? (text : List Char) : Option Nat :=
  let digits :=
    match text with
    | '+' :: rest => rest
    | _ => text
  if digits.isEmpty || !digits.all Char.isDigit then none
  else
    let number := decimal digits
    if number < Nat.pow 2 64 then some number else none

/-- The place with these numbers. -/
def ofNumbers? (line column : String) : Option Position := do
  some { line := ← count? line.toList, column := ← count? column.toList }

/-- What stands before the number of a line. -/
def lineMark : String :=
  "Line: "

/-- What stands before the number of a column. -/
def columnMark : String :=
  ", Column "

/-- The place whose numbers stand in a message: the line from one offset on, and the column behind
the mark that comes a number of bytes later. -/
def cutOut (message : String) (lineStart length : Nat) :
    Except Text.OffsetFault (Option Position) := do
  let line ← Text.slice message lineStart (lineStart + length)
  let columnStart := lineStart + length + columnMark.utf8ByteSize
  let behind ← Text.sliceFrom message columnStart
  let toEnd ← Text.difference message.utf8ByteSize columnStart
  let digits := (Text.offsetOfFirst? (fun character => !character.isDigit) behind).getD toEnd
  let column ← Text.slice message columnStart (columnStart + digits)
  return ofNumbers? line column

/-- The place that a message names after its first `Line: `.  The marks are searched and the
numbers are cut out by offsets. -/
def locate (message : String) : Except Text.OffsetFault (Option Position) := do
  match Text.offsetOf? lineMark message with
  | none => return none
  | some start =>
      let lineStart := start + lineMark.utf8ByteSize
      match Text.offsetOf? columnMark (← Text.sliceFrom message lineStart) with
      | none => return none
      | some length => cutOut message lineStart length

/-- The place that a message names.  A fault would hide it, but there is none for any message. -/
def find? (message : String) : Option Position :=
  match locate message with
  | .ok place => place
  | .error _ => none

end Position

namespace Failure

/-- Whose fault a failure is. -/
def kind : Failure → Kind
  | unreadableFile _ _ => .internal
  | _ => .badRequest

/-- What is said about a statement that cannot be read, with the place if the reason names one. -/
def statementMessage (reason : String) : String :=
  match Position.find? reason with
  | some place =>
      "SQL parse error at line " ++ toString place.line ++ ", column " ++
        toString place.column ++ ":\n  " ++ reason
  | none => "SQL parse error:\n  " ++ reason

/-- What is said about a failure. -/
def message : Failure → String
  | unreadableFile path reason => "Failed to read file '" ++ path ++ "': " ++ reason
  | invalidFacts origin reason => "Invalid facts in '" ++ origin ++ "': " ++ reason
  | absentStatement => "SQL text is absent"
  | invalidStatement reason => statementMessage reason
  | unreadableSettings reason => "Failed to read config file: " ++ reason
  | malformedSettings reason => "Invalid config file: " ++ reason
  | unknownDialect name => "Unknown SQL dialect: " ++ name
  | unclearParallel value => "Invalid CRUD_RESOLVER_PARALLEL value: " ++ value
  | invalidSettings message => message

/-- The short form of a failure. -/
def label (failure : Failure) : String :=
  failure.kind.label

end Failure
end TableReach
