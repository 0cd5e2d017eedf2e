import TableReach.MethodId

/-!
# The data-access layer

Classes of the data-access layer are told by the ends of their names.
-/

namespace TableReach

/-- How the classes of the data-access layer end. -/
structure Convention where
  /-- The endings, none of them empty. -/
  suffixes : List String
deriving DecidableEq

namespace Convention

/-- The convention of these endings; empty ones are left out. -/
def ofSuffixes (suffixes : List String) : Convention :=
  { suffixes := suffixes.filter fun suffix => !suffix.isEmpty }

/-- The usual endings. -/
def usualSuffixes : List String :=
  ["Mapper", "Repository", "Dao"]

/-- The usual convention. -/
def usual : Convention :=
  ofSuffixes usualSuffixes

/-- A class belongs to the data-access layer. -/
def isDataAccess (convention : Convention) (className : String) : Bool :=
  convention.suffixes.any fun suffix => suffix.toList.isSuffixOf className.toList

end Convention
end TableReach
