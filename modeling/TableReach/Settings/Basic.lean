import TableReach.Sql.Dialect
import TableReach.CallGraph.Convention

/-!
# Settings

The settings of a run.  A source of settings defines some of them; what it leaves
open takes the usual value.
-/

namespace TableReach

/-- Which packages are analysed. -/
structure PackageFilter where
  /-- The beginnings of packages that are analysed; none means all. -/
  included : List String
  /-- The beginnings of packages that are left out. -/
  excluded : List String
deriving DecidableEq

/-- A package is analysed. -/
def PackageFilter.admits (filter : PackageFilter) (package : String) : Bool :=
  let startsWithAny (beginnings : List String) : Bool :=
    beginnings.any fun beginning => beginning.toList.isPrefixOf package.toList
  (filter.included.isEmpty || startsWithAny filter.included) && !startsWithAny filter.excluded

/-- The settings of a run. -/
structure Settings where
  /-- The dialect of the statements. -/
  dialect : Sql.Dialect
  /-- How the classes of the data-access layer end, as written. -/
  suffixes : List String
  /-- How many calls deep a search goes; zero for no limit. -/
  maxDepth : Nat
  /-- The names of tiers that are not tried. -/
  disabled : List String
  /-- Endpoints may be analysed side by side. -/
  parallel : Bool
  /-- Which packages are analysed. -/
  packages : PackageFilter
  /-- The level of the log. -/
  logLevel : Option String
deriving DecidableEq

namespace Settings

/-- The usual settings. -/
def usual : Settings where
  dialect := .generic
  suffixes := Convention.usualSuffixes
  maxDepth := 0
  disabled := []
  parallel := true
  packages := { included := [], excluded := [] }
  logLevel := none

/-- The convention of the data-access layer. -/
def convention (settings : Settings) : Convention :=
  Convention.ofSuffixes settings.suffixes

end Settings

/-- The settings that one source defines. -/
structure SettingsSource where
  dialect : Option Sql.Dialect
  suffixes : Option (List String)
  maxDepth : Option Nat
  disabled : Option (List String)
  parallel : Option Bool
  included : Option (List String)
  excluded : Option (List String)
  logLevel : Option String
deriving DecidableEq

namespace SettingsSource

/-- The source that defines nothing. -/
def nothing : SettingsSource where
  dialect := none
  suffixes := none
  maxDepth := none
  disabled := none
  parallel := none
  included := none
  excluded := none
  logLevel := none

/-- Settings changed by a source where it defines them. -/
def applyTo (source : SettingsSource) (settings : Settings) : Settings where
  dialect := source.dialect.getD settings.dialect
  suffixes := source.suffixes.getD settings.suffixes
  maxDepth := source.maxDepth.getD settings.maxDepth
  disabled := source.disabled.getD settings.disabled
  parallel := source.parallel.getD settings.parallel
  packages :=
    { included := source.included.getD settings.packages.included
      excluded := source.excluded.getD settings.packages.excluded }
  logLevel := source.logLevel <|> settings.logLevel

/-- The settings of a source alone. -/
def settings (source : SettingsSource) : Settings :=
  source.applyTo Settings.usual

end SettingsSource
end TableReach
