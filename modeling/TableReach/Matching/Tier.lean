import TableReach.Text.Search
import TableReach.CallGraph.Convention
import TableReach.Facts.Basic

/-!
# Tiers of matching

Whether a statement belongs to one of the reached methods is decided in tiers,
from the most to the least precise.
-/

namespace TableReach

/-- A way to match a statement with a reached method. -/
inductive Tier where
  /-- The method is the statement's own. -/
  | exact
  /-- The method is the statement's own but for the qualification of the class. -/
  | simpleName
  /-- The class holds the simple name of the owner, and the method has the statement's name. -/
  | looseSuffix
  /-- The class holds the simple name of the owner, which is one of the data-access layer. -/
  | containment
deriving DecidableEq

namespace Tier

/-- The tiers from the most to the least precise. -/
def all : List Tier :=
  [exact, simpleName, looseSuffix, containment]

/-- The name of a tier. -/
def name : Tier → String
  | exact => "exact"
  | simpleName => "simple-name"
  | looseSuffix => "loose-suffix"
  | containment => "containment"

/-- The tier of this name. -/
def ofName? (text : String) : Option Tier :=
  all.find? fun tier => tier.name == text

/-- The class of a method holds a text. -/
def classHolds (id : MethodId) (text : String) : Bool :=
  Text.contains id.className.toList text.toList

/-- A tier holds between a statement and the reached methods. -/
def holds
    (tier : Tier)
    (convention : Convention)
    (mapping : Mapping)
    (reachable : List MethodId) : Bool :=
  match tier with
  | exact => reachable.contains mapping.qualifiedId
  | simpleName =>
      reachable.contains (MethodId.ofParts mapping.simpleOwner mapping.operationId)
  | looseSuffix =>
      reachable.any fun id =>
        classHolds id mapping.simpleOwner && id.method == mapping.operationId
  | containment =>
      convention.isDataAccess mapping.simpleOwner &&
        reachable.any fun id => classHolds id mapping.simpleOwner

end Tier
end TableReach
