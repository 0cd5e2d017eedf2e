import TableReach.CommandLine.Help
import TableReach.Report.Output
import TableReach.Sql.Dialect

/-!
# Arguments of the command line

Arguments are read from left to right.  The value of an option is looked at only
when the next known option or the end comes, so that an argument nobody knows is
reported first.
-/

namespace TableReach
namespace CommandLine

/-- What an analysis is asked for. -/
structure Request where
  /-- The file of facts. -/
  facts : String
  /-- The file of settings. -/
  config : Option String
  /-- The dialect of the statements. -/
  dialect : Option Sql.Dialect
  /-- The format of the report. -/
  outputFormat : OutputFormat
  /-- Endpoints are analysed one after the other. -/
  sequential : Bool
  /-- The report tells all that was counted. -/
  verbose : Bool
  /-- The report is not coloured. -/
  noColor : Bool
deriving DecidableEq

/-- Why there is nothing to analyse. -/
inductive Refusal where
  /-- Help is asked for. -/
  | help (topic : Topic)
  /-- The version is asked for. -/
  | version
  /-- There is no command. -/
  | missingCommand
  /-- There is no such command. -/
  | unknownCommand
  /-- An option that has to be there is missing. -/
  | missingOption
  /-- There is no such argument. -/
  | unknownArgument
  /-- The value of an option is missing or not one of those it can have. -/
  | invalidValue
  /-- An option is given twice. -/
  | repeatedOption
  /-- A value is given to an option that takes none. -/
  | unexpectedValue
deriving DecidableEq

/-- The code with which the program ends. -/
def Refusal.exitCode : Refusal → Nat
  | help _ => 0
  | version => 0
  | _ => 2

/-- What is said about it. -/
def Refusal.message : Refusal → String
  | help topic => topic.text
  | version => CommandLine.version
  | missingCommand => Topic.program.text
  | unknownCommand => "error: unrecognized subcommand"
  | missingOption => "error: the following required arguments were not provided: --facts <FACTS>"
  | unknownArgument => "error: unexpected argument found"
  | invalidValue => "error: invalid or missing value for an option"
  | repeatedOption => "error: an option cannot be used multiple times"
  | unexpectedValue => "error: unexpected value for an option that takes none"

/-- The options that take a value. -/
inductive Setting where
  | facts
  | config
  | dialect
  | outputFormat
deriving DecidableEq

/-- The options that take none. -/
inductive Switch where
  | sequential
  | verbose
  | noColor
  | help
deriving DecidableEq

/-- An option. -/
inductive Flag where
  | setting (name : Setting)
  | switch (name : Switch)
deriving DecidableEq

/-- The option of a long name. -/
def ofLongName? (name : String) : Option Flag :=
  match name with
  | "facts" => some (.setting .facts)
  | "config" => some (.setting .config)
  | "dialect" => some (.setting .dialect)
  | "output-format" => some (.setting .outputFormat)
  | "sequential" => some (.switch .sequential)
  | "verbose" => some (.switch .verbose)
  | "no-color" => some (.switch .noColor)
  | "help" => some (.switch .help)
  | _ => none

/-- The option of a short name. -/
def ofShortName? (name : Char) : Option Flag :=
  match name with
  | 'c' => some (.setting .config)
  | 'f' => some (.setting .outputFormat)
  | 'v' => some (.switch .verbose)
  | 'h' => some (.switch .help)
  | _ => none

/-- An argument by its shape. -/
inductive Argument where
  /-- The mark behind which there are no options. -/
  | separator
  /-- A long name, with a value if one is attached. -/
  | long (name : String) (value : Option String)
  /-- Short names in a row. -/
  | short (names : List Char)
  /-- Anything else. -/
  | word (text : String)

/-- The shape of an argument. -/
def Argument.ofText (text : String) : Argument :=
  match text.toList with
  | ['-', '-'] => .separator
  | '-' :: '-' :: rest =>
      let name := rest.takeWhile (· != '=')
      .long (String.ofList name)
        (if name.length < rest.length then some (String.ofList (rest.drop (name.length + 1)))
        else none)
  | '-' :: first :: rest => .short (first :: rest)
  | _ => .word text

/-- What has been read of a request. -/
structure Draft where
  /-- The options with their values. -/
  settings : List (Setting × String)
  /-- The options without a value. -/
  switches : List Switch
  /-- The option that was read last, with its value if that has been read. -/
  pending : Option (Setting × Option String)

namespace Draft

/-- Nothing has been read. -/
def empty : Draft :=
  { settings := [], switches := [], pending := none }

/-- An option can have this value. -/
def admits (setting : Setting) (value : String) : Bool :=
  match setting with
  | .facts => !value.isEmpty
  | .config => !value.isEmpty
  | .dialect => (Sql.Dialect.ofExactName? value).isSome
  | .outputFormat => (OutputFormat.ofName? value).isSome

/-- Give an option its value. -/
def set (draft : Draft) (setting : Setting) (value : Option String) : Except Refusal Draft :=
  match value with
  | none => .error .invalidValue
  | some found =>
      if (draft.settings.lookup setting).isSome then .error .repeatedOption
      else if admits setting found then
        .ok { draft with settings := draft.settings ++ [(setting, found)] }
      else .error .invalidValue

/-- Look at the option that was read last. -/
def settle (draft : Draft) : Except Refusal Draft :=
  match draft.pending with
  | none => .ok draft
  | some (setting, value) => { draft with pending := none }.set setting value

/-- Read an option without a value. -/
def turnOn (draft : Draft) (switch : Switch) : Except Refusal Draft := do
  let settled ← draft.settle
  if switch == .help then .error (.help .analyze)
  else if settled.switches.contains switch then .error .repeatedOption
  else .ok { settled with switches := settled.switches ++ [switch] }

/-- Read an option with a value, which may be attached. -/
def begin
    (draft : Draft)
    (setting : Setting)
    (attached : Option String) : Except Refusal Draft := do
  let settled ← draft.settle
  match attached with
  | some value => settled.set setting (some value)
  | none => .ok { settled with pending := some (setting, none) }

/-- Read short names in a row; what follows the name of an option with a value is that value. -/
def readShort (draft : Draft) : List Char → Except Refusal Draft
  | [] => .ok draft
  | name :: rest =>
      match ofShortName? name with
      | none => .error .unknownArgument
      | some (.switch switch) => do readShort (← draft.turnOn switch) rest
      | some (.setting setting) =>
          let value :=
            match rest with
            | [] => none
            | '=' :: behind => some (String.ofList behind)
            | _ => some (String.ofList rest)
          draft.begin setting value

/-- Read a word: it is the value of the option before it, if that waits for one. -/
def readWord (draft : Draft) (word : String) : Except Refusal Draft :=
  match draft.pending with
  | some (setting, none) => .ok { draft with pending := some (setting, some word) }
  | _ => .error .unknownArgument

/-- Read one argument. -/
def read (draft : Draft) (argument : Argument) : Except Refusal Draft :=
  match argument with
  | .separator => .ok draft
  | .short names => draft.readShort names
  | .word text => draft.readWord text
  | .long name value =>
      match ofLongName? name with
      | none => .error .unknownArgument
      | some (.setting setting) => draft.begin setting value
      | some (.switch switch) =>
          if value.isSome then .error .unexpectedValue else draft.turnOn switch

/-- Read arguments.  Behind the separator there may be none. -/
def readAll (draft : Draft) : List String → Except Refusal Draft
  | [] => draft.settle
  | text :: others =>
      match Argument.ofText text with
      | .separator => if others.isEmpty then draft.settle else .error .unknownArgument
      | argument => do readAll (← draft.read argument) others

/-- The request that has been read. -/
def request (draft : Draft) : Except Refusal Request :=
  match draft.settings.lookup .facts with
  | none => .error .missingOption
  | some facts =>
      .ok
        { facts := facts
          config := draft.settings.lookup .config
          dialect := (draft.settings.lookup .dialect).bind Sql.Dialect.ofExactName?
          outputFormat :=
            ((draft.settings.lookup .outputFormat).bind OutputFormat.ofName?).getD .text
          sequential := draft.switches.contains .sequential
          verbose := draft.switches.contains .verbose
          noColor := draft.switches.contains .noColor }

end Draft

/-- The topic of a command. -/
def topicOf? (command : String) : Option Topic :=
  match command with
  | "analyze" => some .analyze
  | "help" => some .help
  | _ => none

/-- The help that is asked for by the command `help`. -/
def helpOn : List String → Refusal
  | [] => .help .program
  | [command] => ((topicOf? command).map Refusal.help).getD .unknownCommand
  | _ => .unknownCommand

/-- What options without a command ask for. -/
def leading (argument : Argument) : Refusal :=
  match argument with
  | .long "help" value => if value.isSome then .unexpectedValue else .help .program
  | .long "version" value => if value.isSome then .unexpectedValue else .version
  | .short ('h' :: _) => .help .program
  | .short ('V' :: _) => .version
  | .word _ => .unknownCommand
  | _ => .unknownArgument

/-- The request of a command line. -/
def parse : List String → Except Refusal Request
  | [] => .error .missingCommand
  | "analyze" :: arguments => do (← Draft.empty.readAll arguments).request
  | "help" :: commands => .error (helpOn commands)
  | "--" :: [] => .error .missingCommand
  | "--" :: word :: _ =>
      .error (if (topicOf? word).isSome then .unknownArgument else .unknownCommand)
  | text :: _ => .error (leading (Argument.ofText text))

end CommandLine
end TableReach
