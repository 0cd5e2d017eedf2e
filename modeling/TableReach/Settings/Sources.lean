import TableReach.Document.File
import TableReach.Document.Read
import TableReach.Failure
import TableReach.Settings.Decode
import TableReach.Text.Blank

/-!
# Where settings come from

Settings come from one file, then from the environment, then from the command line;
each changes what it defines.  There may be a file in the home directory and one in
the working directory: the latter stands in for the former as a whole.
-/

namespace TableReach

/-- What the environment says about settings. -/
structure Environment where
  /-- The name of the dialect. -/
  dialect : Option String
  /-- Whether endpoints may be analysed side by side. -/
  parallel : Option String
deriving DecidableEq

namespace Environment

/-- The words for yes. -/
def yesWords : List String :=
  ["1", "true", "yes", "on"]

/-- The words for no. -/
def noWords : List String :=
  ["0", "false", "no", "off"]

/-- The truth value of a word in any case, with blanks around it allowed. -/
def truth? (value : String) : Option Bool :=
  let word := Text.lowerAscii (String.ofList (Text.trim value.toList))
  if yesWords.contains word then some true
  else if noWords.contains word then some false
  else none

/-- A setting that the environment may define. -/
def setting
    (read? : String → Option α)
    (mistake : String → Failure)
    (value : Option String) : Except Failure (Option α) :=
  match value with
  | none => .ok none
  | some word =>
      match read? word with
      | some found => .ok (some found)
      | none => .error (mistake word)

/-- The settings that the environment defines. -/
def source (environment : Environment) : Except Failure SettingsSource := do
  let dialect ← setting Sql.Dialect.ofName? .unknownDialect environment.dialect
  let parallel ← setting truth? .unclearParallel environment.parallel
  return { SettingsSource.nothing with dialect := dialect, parallel := parallel }

end Environment

namespace SettingsSource

/-- The settings that a text defines. -/
def ofText (text : String) : Except Failure SettingsSource :=
  match (Document.read? .toml text).bind (SettingsSource.decode .toml) with
  | some source => .ok source
  | none => .error (.malformedSettings "")

/-- The settings that a file defines. -/
def ofFile (file : File) : Except Failure SettingsSource :=
  match file.content with
  | .error reason => .error (.unreadableSettings reason)
  | .ok text => ofText text

/-- The settings that a file defines, if there is one. -/
def ofFile? (file : File) : Except Failure (Option SettingsSource) :=
  if file == .absent then .ok none else (ofFile file).map some

end SettingsSource

/-- What the command line says about settings. -/
structure Overrides where
  /-- The dialect. -/
  dialect : Option Sql.Dialect
  /-- Endpoints are analysed one after the other. -/
  sequential : Bool
deriving DecidableEq

/-- The settings that the command line defines. -/
def Overrides.source (overrides : Overrides) : SettingsSource :=
  { SettingsSource.nothing with
    dialect := overrides.dialect
    parallel := if overrides.sequential then some false else none }

namespace Settings

/-- The settings of a file and the environment. -/
def ofFile (file : File) (environment : Environment) : Except Failure Settings := do
  let file ← SettingsSource.ofFile file
  let changes ← environment.source
  return changes.applyTo file.settings

/-- The settings of the file in the home directory, the file in the working directory and the
environment. -/
def load
    (home near : File)
    (environment : Environment) : Except Failure Settings := do
  let home ← SettingsSource.ofFile? home
  let near ← SettingsSource.ofFile? near
  let changes ← environment.source
  return changes.applyTo ((near <|> home).getD SettingsSource.nothing).settings

/-- The settings changed by the command line. -/
def override (settings : Settings) (overrides : Overrides) : Settings :=
  overrides.source.applyTo settings

/-- The level of the log: a run that tells more has its own. -/
def effectiveLogLevel (settings : Settings) (verbose : Bool) : String :=
  if verbose then "info" else settings.logLevel.getD "warn"

end Settings
end TableReach
