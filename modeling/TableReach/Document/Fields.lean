import TableReach.Document.Basic

/-!
# Reading values out of documents

`Decoder` takes a value of a type out of a document or fails.  A record is given
as a table, in which keys that are not asked for are ignored, or as a list of its
fields in order.
-/

namespace TableReach
namespace Document

/-- A reader of values. -/
abbrev Decoder (α : Type) := Document → Option α

/-- A text.  A scalar of open type is taken as it is written. -/
def text : Decoder String
  | .string value => some value
  | .plain value => some value
  | .tagged _ _ value => some value
  | _ => none

/-- A truth value. -/
def truth : Decoder Bool
  | .bool value => some value
  | _ => none

/-- A number of 64 bits without a sign. -/
def count : Decoder Nat
  | .integer value => if 0 ≤ value && value < Nat.pow 2 64 then some value.toNat else none
  | _ => none

/-- The ways to write that there is no value, where the type is left open. -/
def nullWords : List String :=
  ["", "~", "null", "Null", "NULL"]

/-- The type of missing values. -/
def nullType : String := "tag:yaml.org,2002:null"

/-- A value that may be missing.  A scalar that names the type of missing values has to be a word
for one. -/
def optional (decoder : Decoder α) : Decoder (Option α)
  | .null => some none
  | .plain word => if nullWords.contains word then some none else (decoder (.plain word)).map some
  | .tagged type true word =>
      if type != nullType then (decoder (.tagged type true word)).map some
      else if word != "" && nullWords.contains word then some none
      else none
  | value => (decoder value).map some

/-- Values in order.  A scalar of open type that is empty stands for none. -/
def listOf (decoder : Decoder α) : Decoder (List α)
  | .list items => items.mapM decoder
  | .plain "" => some []
  | .tagged _ true "" => some []
  | _ => none

/-- A field of a record by its names. -/
abbrev FieldNames := List String

/-- The values of the entries with one of these keys. -/
def entriesNamed
    (names : FieldNames)
    (entries : List (String × Document)) : List Document :=
  (entries.filter fun entry => names.contains entry.1).map Prod.snd

/-- At most one value. -/
def atMostOne : List Document → Option (Option Document)
  | [] => some none
  | [value] => some (some value)
  | _ :: _ :: _ => none

/-- The values of a record's fields, each of which may be missing but not given twice. -/
def fields (names : List FieldNames) : Decoder (List (Option Document))
  | .table entries => names.mapM fun field => atMostOne (entriesNamed field entries)
  | .list items =>
      if items.length ≤ names.length then
        some (items.map some ++ List.replicate (names.length - items.length) none)
      else none
  | .plain "" => some (names.map fun _ => none)
  | .tagged _ true "" => some (names.map fun _ => none)
  | _ => none

/-- The value of a field that has to be there. -/
def required (decoder : Decoder α) : Option Document → Option α
  | none => none
  | some value => decoder value

/-- The value of a field, or one for a field that is missing. -/
def defaulted (decoder : Decoder α) (absent : α) : Option Document → Option α
  | none => some absent
  | some value => decoder value

/-- The word that a type of its own stands for: what stands behind its mark, if anything does. -/
def ownType? (type : String) : Option String :=
  match type.toList with
  | ['!'] => some type
  | '!' :: word => some (String.ofList word)
  | _ => none

/-- A word out of a fixed choice, written as a text or, in some formats, as the only key of a
table that holds nothing or as the type of a missing value. -/
def choice (format : Format) : Decoder String
  | .tagged type isPlain value =>
      match ownType? type with
      | none => some value
      | some word => if isPlain && nullWords.contains value then some word else none
  | .table [(word, .null)] => if format == .json then some word else none
  | .table [(word, .list [])] => if format == .toml then some word else none
  | .table [(word, .table [])] => if format == .toml then some word else none
  | value => text value

end Document
end TableReach
