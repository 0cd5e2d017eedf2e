import TableReach.Document.Toml.Node
import TableReach.Document.Toml.Scalar

/-!
# Reading TOML

A text is a sequence of lines: headers that open a table, and keys with values.
-/

namespace TableReach
namespace Document
namespace Toml

mutual

/-- A value and the text behind it, nested at most `limit` deep. -/
def value? : Nat → List Char → Option (Document × List Char)
  | 0, _ => none
  | limit + 1, text =>
      match text with
      | '"' :: rest => do
          let (found, behind) ← quoted? '"' true rest
          some (.string (String.ofList found), behind)
      | '\x27' :: rest => do
          let (found, behind) ← quoted? '\x27' false rest
          some (.string (String.ofList found), behind)
      | '[' :: rest => do
          let (items, behind) ← items? limit rest
          some (.list items, behind)
      | '\x7b' :: rest =>
          (entries? limit [] rest).map fun found =>
            (.table (documentsOfEntries found.1), found.2)
      | _ => bareValue? text

/-- The items of a list up to its end; a comma may stand behind the last one. -/
def items? : Nat → List Char → Option (List Document × List Char)
  | 0, _ => none
  | limit + 1, text => do
      match ← skipLines? text.length text with
      | ']' :: behind => some ([], behind)
      | start => do
          let (first, rest) ← value? limit start
          match ← skipLines? rest.length rest with
          | ',' :: behind => do
              let (others, remaining) ← items? limit behind
              some (first :: others, remaining)
          | ']' :: behind => some ([first], behind)
          | _ => none

/-- The entries of a table up to its end; a comma may stand behind the last one. -/
def entries? : Nat → Entries → List Char → Option (Entries × List Char)
  | 0, _, _ => none
  | limit + 1, entries, text => do
      match ← skipLines? text.length text with
      | '\x7d' :: behind => some (entries, behind)
      | start => do
          let (key, rest) ← key? (start.length + 1) start
          match rest with
          | '=' :: behind => do
              let (found, rest) ← value? limit (skipBlanks behind)
              let defined ← define? (.value found) key entries
              match ← skipLines? rest.length rest with
              | ',' :: behind => entries? limit defined behind
              | '\x7d' :: behind => some (defined, behind)
              | _ => none
          | _ => none

end

/-- The text behind the rest of a line that holds nothing more. -/
def endLine? (text : List Char) : Option (List Char) := do
  afterLine? (← afterComment? (skipBlanks text))

/-- Read the lines of a text: `current` is the table that the last header opened. -/
def lines? : Nat → List String → Entries → List Char → Option Entries
  | 0, _, _, _ => none
  | limit + 1, current, root, text => do
      match ← skipLines? text.length text with
      | [] => some root
      | '[' :: '[' :: rest => do
          let (path, behind) ← key? (rest.length + 1) rest
          match behind with
          | ']' :: ']' :: tail => do
              lines? limit path (← openListed? path root) (← endLine? tail)
          | _ => none
      | '[' :: rest => do
          let (path, behind) ← key? (rest.length + 1) rest
          match behind with
          | ']' :: tail => do
              lines? limit path (← openTable? path root) (← endLine? tail)
          | _ => none
      | start => do
          let (path, rest) ← key? (start.length + 1) start
          match rest with
          | '=' :: behind => do
              let (found, tail) ← value? (2 * behind.length + 2) (skipBlanks behind)
              let changed ← change? (define? (.value found) path) current root
              lines? limit current changed (← endLine? tail)
          | _ => none

/-- The document of a TOML text. -/
def read? (text : String) : Option Document := do
  let characters :=
    match text.toList with
    | '\ufeff' :: rest => rest
    | whole => whole
  let entries ← lines? (characters.length + 1) [] [] characters
  some (.table (documentsOfEntries entries))

end Toml
end Document
end TableReach
