import TableReach.CommandLine.Arguments
import TableReach.Facts.Read
import TableReach.Run.Analysis
import TableReach.Settings.Sources

/-!
# Runs of the command line

A run asks its host for files, variables of the environment and the input, and ends
with what is to be printed and a code.
-/

namespace TableReach
namespace CommandLine

/-- Where a run takes place. -/
structure Host (m : Type → Type) where
  /-- The file at a path. -/
  file : String → m File
  /-- The input. -/
  input : m File
  /-- A variable of the environment. -/
  lookup : String → m (Option String)
  /-- The output is seen by a person. -/
  isTerminal : m Bool

/-- How a run ends. -/
structure Outcome where
  /-- The code. -/
  code : Nat
  /-- What is printed. -/
  output : String
  /-- What is said about a mistake. -/
  complaint : Option String
  /-- The events that are shown. -/
  events : List Event

namespace Outcome

/-- Nothing is analysed. -/
def ofRefusal (refusal : Refusal) : Outcome :=
  { code := refusal.exitCode
    output :=
      match refusal with
      | .help topic => topic.text
      | .version => version ++ "\n"
      | _ => ""
    complaint := if refusal.exitCode == 0 then none else some refusal.message
    events := [] }

/-- The run fails. -/
def ofFailure (failure : Failure) : Outcome :=
  { code := 1
    output := ""
    complaint := some ("Error: " ++ failure.label)
    events := [] }

end Outcome

/-- The environment of a run. -/
def environment [Monad m] (host : Host m) : m Environment := do
  let dialect ← host.lookup "CRUD_RESOLVER_DIALECT"
  let parallel ← host.lookup "CRUD_RESOLVER_PARALLEL"
  return { dialect := dialect, parallel := parallel }

/-- The path of the settings in the home directory. -/
def homeSettings (home : String) : String :=
  let place := ".config/crud-resolver/config.toml"
  if home.isEmpty || home.toList.getLast? == some '/' then home ++ place
  else home ++ "/" ++ place

/-- The path of the settings in the working directory. -/
def nearSettings : String :=
  ".crud-resolver.toml"

/-- The settings of a run without what the command line says. -/
def readSettings [Monad m] (host : Host m) (request : Request) : m (Except Failure Settings) := do
  let environment ← environment host
  match request.config with
  | some path => return Settings.ofFile (← host.file path) environment
  | none =>
      let home ←
        match ← host.lookup "HOME" with
        | some home => host.file (homeSettings home)
        | none => pure File.absent
      return Settings.load home (← host.file nearSettings) environment

/-- The facts of a run. -/
def readFacts [Monad m] (host : Host m) (path : String) : m (Except Failure Facts) := do
  if path == "-" then
    match (← host.input).content with
    | .error reason => return .error (.unreadableFile "stdin" reason)
    | .ok text => return Facts.read .json text "stdin"
  else return Facts.ofFile path (← host.file path)

/-- The output may be coloured: that is asked for, or a person sees it and nothing speaks against
it. -/
def mayColor [Monad m] (host : Host m) : m Bool := do
  let isOn (value : String) : Bool := value != "0"
  if ((← host.lookup "CLICOLOR_FORCE").map isOn).getD false then return true
  else if (← host.lookup "NO_COLOR").isSome then return false
  else return ((← host.lookup "CLICOLOR").map isOn).getD true && (← host.isTerminal)

/-- What the command line says about settings. -/
def Request.overrides (request : Request) : Overrides :=
  { dialect := request.dialect, sequential := request.sequential }

/-- Analyse facts as asked for. -/
def Request.analyze
    (request : Request)
    (settings : Settings)
    (facts : Facts)
    (mayColor : Bool) : Outcome :=
  let options : OutputOptions :=
    { format := request.outputFormat
      colored := !request.noColor && mayColor
      verbose := request.verbose }
  let analysis := Analysis.run (settings.override request.overrides) facts options
  let level? := Level.ofName? (settings.effectiveLogLevel request.verbose)
  { code := 0
    output := analysis.value.output ++ "\n"
    complaint := none
    events := analysis.events.filter fun event => event.isShown level? }

/-- Run the command line. -/
def run [Monad m] (host : Host m) (arguments : List String) : m Outcome := do
  match parse arguments with
  | .error refusal => return Outcome.ofRefusal refusal
  | .ok request =>
      match ← readSettings host request with
      | .error failure => return Outcome.ofFailure failure
      | .ok settings =>
          match ← readFacts host request.facts with
          | .error failure => return Outcome.ofFailure failure
          | .ok facts => return request.analyze settings facts (← mayColor host)

end CommandLine
end TableReach
