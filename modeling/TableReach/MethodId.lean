import TableReach.Sql.TableName

/-!
# Method identifiers

A method is identified by its class and its name with a `#` between them.  Class
names may be qualified; the simple name is what stands behind the last period.
-/

namespace TableReach

/-- A class and a method name with a `#` between them. -/
abbrev MethodId := String

namespace MethodId

/-- The identifier of a method of a class. -/
def ofParts (className method : String) : MethodId :=
  className ++ "#" ++ method

/-- The class and the method name: what stands before and behind the first `#`.  A text without
`#` is a class. -/
def parts (id : MethodId) : String × String :=
  (String.ofList (id.toList.takeWhile (· != '#')),
    String.ofList ((id.toList.dropWhile (· != '#')).drop 1))

/-- The class of a method. -/
def className (id : MethodId) : String :=
  id.parts.1

/-- The name of a method without its class. -/
def method (id : MethodId) : String :=
  id.parts.2

end MethodId

/-- What stands behind the last period of a qualified name. -/
def simpleName (qualified : String) : String :=
  String.ofList (Sql.afterLast '.' qualified.toList)

end TableReach
