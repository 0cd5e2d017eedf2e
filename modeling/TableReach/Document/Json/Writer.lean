import TableReach.Document.Basic

/-!
# Writing JSON

Each item and each entry stands on a line of its own, two blanks deeper than what
it belongs to.
-/

namespace TableReach
namespace Document
namespace Json

/-- A hexadecimal digit. -/
def hexDigit (value : Nat) : Char :=
  Nat.digitChar (value % 16)

/-- A character as it stands in a string. -/
def escape (character : Char) : List Char :=
  if character == '"' then "\\\"".toList
  else if character == '\\' then "\\\\".toList
  else if character == '\n' then "\\n".toList
  else if character == '\r' then "\\r".toList
  else if character == '\t' then "\\t".toList
  else if character.toNat == 8 then "\\b".toList
  else if character.toNat == 12 then "\\f".toList
  else if character.toNat < 0x20 then
    "\\u00".toList ++ [hexDigit (character.toNat / 16), hexDigit character.toNat]
  else [character]

/-- A string. -/
def quote (text : String) : String :=
  String.ofList ('"' :: text.toList.flatMap escape ++ ['"'])

/-- The start of a line. -/
def margin (depth : Nat) : String :=
  String.ofList (List.replicate (2 * depth) ' ')

/-- Parts on lines of their own between brackets. -/
def bracket (opening closing : String) (depth : Nat) (parts : List String) : String :=
  if parts.isEmpty then opening ++ closing
  else
    opening ++ "\n" ++
      ",\n".intercalate (parts.map fun part => margin (depth + 1) ++ part) ++
      "\n" ++ margin depth ++ closing

mutual

/-- A value that stands at a depth. -/
def write (depth : Nat) : Document → String
  | .null => "null"
  | .bool value => toString value
  | .integer value => toString value
  | .string text => quote text
  | .plain text => quote text
  | .tagged _ _ text => quote text
  | .letter value => quote (String.singleton value)
  | .other => "null"
  | .list items => bracket "[" "]" depth (writeItems (depth + 1) items)
  | .table entries => bracket "\x7b" "\x7d" depth (writeEntries (depth + 1) entries)

/-- The items of a list. -/
def writeItems (depth : Nat) : List Document → List String
  | [] => []
  | item :: others => write depth item :: writeItems depth others

/-- The entries of a table. -/
def writeEntries (depth : Nat) : List (String × Document) → List String
  | [] => []
  | (key, value) :: others =>
      (quote key ++ ": " ++ write depth value) :: writeEntries depth others

end

end Json
end Document
end TableReach
