/-!
# Help of the command line
-/

namespace TableReach
namespace CommandLine

/-- What help is about. -/
inductive Topic where
  /-- The program. -/
  | program
  /-- The command `analyze`. -/
  | analyze
  /-- The command `help`. -/
  | help
deriving DecidableEq

/-- The version of the program. -/
def version : String :=
  "crud-resolver 0.1.0"

/-- The help on a topic. -/
def Topic.lines : Topic → List String
  | program =>
      ["Static endpoint-to-table CRUD resolution over extracted call graphs and SQL mappings",
        "",
        "Usage: crud-resolver <COMMAND>",
        "",
        "Commands:",
        "  analyze  Resolve endpoints to CRUD links",
        "  help     Print this message or the help of the given subcommand(s)",
        "",
        "Options:",
        "  -h, --help     Print help",
        "  -V, --version  Print version"]
  | analyze =>
      ["Resolve endpoints to CRUD links",
        "",
        "Usage: crud-resolver analyze [OPTIONS] --facts <FACTS>",
        "",
        "Options:",
        "      --facts <FACTS>                  Path to facts file (JSON, YAML or TOML; use - for JSON on stdin)",
        "  -c, --config <CONFIG>                Explicit configuration file",
        "      --dialect <DIALECT>              SQL dialect for parsing (overrides configuration) [possible values: generic, mysql, postgresql, sqlite]",
        "  -f, --output-format <OUTPUT_FORMAT>  Output format [default: text] [possible values: text, json, yaml]",
        "      --sequential                     Resolve endpoints on a single thread",
        "  -v, --verbose                        Enable verbose output with run statistics",
        "      --no-color                       Disable colored output",
        "  -h, --help                           Print help"]
  | help =>
      ["Print this message or the help of the given subcommand(s)",
        "",
        "Usage: crud-resolver help [COMMAND]...",
        "",
        "Arguments:",
        "  [COMMAND]...  Print help for the subcommand(s)"]

/-- The text of the help on a topic. -/
def Topic.text (topic : Topic) : String :=
  String.join (topic.lines.map fun line => line ++ "\n")

end CommandLine
end TableReach
