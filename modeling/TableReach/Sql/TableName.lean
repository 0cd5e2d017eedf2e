import TableReach.Sql.Tree

/-!
# Bare table names

Tables are reported by their bare name: the last part of a dotted name, without
quotes.
-/

namespace TableReach
namespace Sql

/-- A character that quotes a name. -/
def isQuote (character : Char) : Bool :=
  character == '\x60' || character == '"' || character == '\x27' || character == '[' ||
    character == ']'

/-- What stands behind the last `mark`, or all of a text without one. -/
def afterLast (mark : Char) (text : List Char) : List Char :=
  (text.reverse.takeWhile (· != mark)).reverse

/-- The bare name of a table as it is written. -/
def bareName (written : String) : String :=
  String.ofList ((afterLast '.' written.toList).filter fun character => !isQuote character)

/-- The bare name of a table. -/
def ObjectName.bare (name : ObjectName) : String :=
  bareName (ObjectName.printed name)

end Sql
end TableReach
