import TableReach.Document.Json.Writer
import TableReach.Document.Yaml.Writer
import TableReach.Report.Text
import TableReach.Report.Tree

/-!
# Output of reports
-/

namespace TableReach

/-- The formats of reports. -/
inductive OutputFormat where
  | text
  | json
  | yaml
deriving DecidableEq

namespace OutputFormat

/-- All formats. -/
def all : List OutputFormat :=
  [text, json, yaml]

/-- The name of a format. -/
def name : OutputFormat → String
  | text => "text"
  | json => "json"
  | yaml => "yaml"

/-- The format of exactly this name. -/
def ofName? (word : String) : Option OutputFormat :=
  all.find? fun format => format.name == word

end OutputFormat

/-- How a report is printed. -/
structure OutputOptions where
  /-- The format. -/
  format : OutputFormat
  /-- Text is coloured. -/
  colored : Bool
  /-- Text tells all that was counted. -/
  verbose : Bool
deriving DecidableEq

/-- Print a report. -/
def Report.render (report : Report) (options : OutputOptions) : String :=
  match options.format with
  | .text => report.text options.colored options.verbose
  | .json => Document.Json.write 0 report.document
  | .yaml => Document.Yaml.write report.document

end TableReach
