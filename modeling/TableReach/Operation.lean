import TableReach.Text.Blank
import TableReach.Text.Letter

/-!
# Operations

What a statement does with rows.
-/

namespace TableReach

/-- What a statement does with rows. -/
inductive Operation where
  | select
  | insert
  | update
  | delete
  | unknown
deriving DecidableEq

namespace Operation

/-- The operations that a statement can be known to do. -/
def known : List Operation :=
  [select, insert, update, delete]

/-- The name of an operation. -/
def name : Operation → String
  | select => "SELECT"
  | insert => "INSERT"
  | update => "UPDATE"
  | delete => "DELETE"
  | unknown => "UNKNOWN"

/-- The known operation of exactly this name, else `unknown`. -/
def ofExactName (text : String) : Operation :=
  (known.find? fun operation => operation.name == text).getD unknown

/-- The known operation of this name in any case, with blanks around it allowed, else `unknown`. -/
def ofName (text : String) : Operation :=
  ofExactName (Text.upperAscii (String.ofList (Text.trim text.toList)))

/-- The letter of a known operation: the first one of its name. -/
def code? : Operation → Option Char
  | select => some 'S'
  | insert => some 'I'
  | update => some 'U'
  | delete => some 'D'
  | unknown => none

end Operation
end TableReach
