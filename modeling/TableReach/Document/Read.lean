import TableReach.Document.Json.Reader
import TableReach.Document.Toml.Reader
import TableReach.Document.Yaml.Reader
import TableReach.Text.Letter

/-!
# Reading documents

The format of a file follows from the ending of its name.
-/

namespace TableReach

/-- The document of a text. -/
def Document.read? (format : Format) (text : String) : Option Document :=
  match format with
  | .json => Json.read? text
  | .yaml => Yaml.read? text
  | .toml => Toml.read? text

namespace Format

/-- The parts of a path. -/
def pathParts : List Char → List Char → List (List Char)
  | part, [] => [part.reverse]
  | part, character :: rest =>
      if character == '/' then part.reverse :: pathParts [] rest
      else pathParts (character :: part) rest

/-- The last part of a path that names something. -/
def fileName? (path : String) : Option (List Char) := do
  let named := (pathParts [] path.toList).filter fun part => !part.isEmpty && part != ['.']
  let last ← named.getLast?
  if last == ['.', '.'] then none else some last

/-- What stands behind the last period of a file's name, unless that is its first character. -/
def extension? (path : String) : Option String := do
  let backwards := (← fileName? path).reverse
  let extension := backwards.takeWhile (· != '.')
  if extension.length + 1 < backwards.length then some (String.ofList extension.reverse)
  else none

/-- The format of a file. -/
def ofPath (path : String) : Format :=
  match (extension? path).map Text.lowerAscii with
  | some "yaml" => .yaml
  | some "yml" => .yaml
  | some "toml" => .toml
  | _ => .json

end Format
end TableReach
