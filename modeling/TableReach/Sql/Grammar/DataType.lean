import TableReach.Sql.Grammar.Name

/-!
# Data types

A data type is one of the known type names with its parameters, or a dotted name
of the user's own.  Nothing of it enters the tree; `DataType` tells the kinds apart
that the grammar of expressions treats differently.

Types that hold other types may close with angle brackets.  Two of these that stand
together are one symbol, so a type says whether the bracket behind it was taken
along with its own.
-/

namespace TableReach
namespace Sql
namespace Grammar

/-- What the grammar of expressions has to know about a data type. -/
inductive DataType where
  | interval
  | custom
  | known
deriving DecidableEq

/-- A data type, and whether it took the closing angle bracket of the type around it. -/
abbrev TypeRead := DataType × Bool

/-- Type names without parameters. -/
def plainTypes : List String :=
  ["BOOLEAN", "BOOL", "FLOAT4", "FLOAT32", "FLOAT64", "FLOAT8", "TEXT", "TINYTEXT", "MEDIUMTEXT",
    "LONGTEXT", "TINYBLOB", "MEDIUMBLOB", "LONGBLOB", "UUID", "DATE", "DATE32", "JSON", "JSONB",
    "REGCLASS", "BYTEA", "INT16", "INT32", "INT64", "INT128", "INT256", "UINT8", "UINT16",
    "UINT32", "UINT64", "UINT128", "UINT256", "HUGEINT", "UBIGINT", "UHUGEINT", "USMALLINT",
    "UTINYINT", "TRIGGER"]

/-- Type names with an optional length. -/
def sizedTypes : List String :=
  ["CLOB", "BLOB", "BYTES", "VARBIT", "DATETIME", "TIMESTAMPTZ", "TIMETZ", "TIMESTAMP_NTZ",
    "STRING"]

/-- Names of whole number types with an optional length. -/
def integerTypes : List String :=
  ["TINYINT", "SMALLINT", "MEDIUMINT", "INT", "INTEGER", "BIGINT", "INT2", "INT4", "INT8"]

/-- Type names with an optional precision and scale. -/
def scaledTypes : List String :=
  ["NUMERIC", "BIGNUMERIC", "BIGDECIMAL", "DECIMAL", "DEC", "FLOAT"]

/-- The length of a character type, in which a unit may follow the number. -/
def characterLength : Reader Unit := do
  if ← acceptSymbol "(" then
    if !(← acceptWord "MAX") then
      wholeNumber
      let _ ← acceptAnyWord ["CHARACTERS", "OCTETS"]
    expectSymbol ")"

/-- The length of a type of bytes. -/
def byteLength : Reader Unit := do
  if ← acceptSymbol "(" then
    if !(← acceptWord "MAX") then wholeNumber
    expectSymbol ")"

/-- The mark of a number type without negative numbers. -/
def unsignedMark : Reader Bool := acceptWord "UNSIGNED"

/-- The marks that may follow a whole number type. -/
def integerMarks (word : String) : Reader Unit := do
  if !(← unsignedMark) then
    if !(["INT2", "INT4", "INT8"].contains word) then
      if ← dialectIn [.generic, .mysql] then
        let _ ← acceptWord "SIGNED"

/-- The time zone clause of a time type. -/
def timeZone : Reader Unit := do
  if ← acceptWord "WITH" then expectWords ["TIME", "ZONE"]
  else if ← acceptWord "WITHOUT" then expectWords ["TIME", "ZONE"]

/-- Strings in round brackets. -/
def stringList : Reader Unit := do
  let _ ← bracketedList singleQuoted

/-- The members of an enumeration, which may have numbers. -/
def enumerationMembers : Reader Unit := do
  let _ ← bracketedList do
    let _ ← literalString
    if ← acceptSymbol "=" then signedValue

/-- The fields of an interval type. -/
def intervalFields : Reader Unit := do
  match ← acceptAnyWord ["YEAR", "DAY", "HOUR", "MINUTE", "MONTH", "SECOND"] with
  | some "YEAR" => if ← acceptWord "TO" then expectWord "MONTH"
  | some "DAY" =>
      if ← acceptWord "TO" then let _ ← expectAnyWord ["HOUR", "MINUTE", "SECOND"]
  | some "HOUR" =>
      if ← acceptWord "TO" then let _ ← expectAnyWord ["MINUTE", "SECOND"]
  | some "MINUTE" => if ← acceptWord "TO" then expectWord "SECOND"
  | _ => return ()

/-- The character type that `CHAR` and `CHARACTER` start, behind the word. -/
def characterType : Reader Unit := do
  if ← acceptWord "VARYING" then characterLength
  else if ← acceptWords ["LARGE", "OBJECT"] then optionalPrecision
  else characterLength

/-- A part of the modifiers of a type; none if it is the bracket that closes them. -/
def typeModifier : Reader (Option Unit) := do
  match (← next).token with
  | .word _ _ | .number _ _ | .singleQuoted _ | .symbol "," => return some ()
  | .symbol ")" => return none
  | _ => unexpected

/-- A dotted name, with words, numbers or strings in brackets behind it. -/
def customType : Reader DataType := do
  require (← isWordAt 0)
  let _ ← objectName
  if ← acceptSymbol "(" then let _ ← many typeModifier
  return .custom

/-- The closing angle bracket of a type, unless the type inside took it; tells whether the bracket
behind it was taken too. -/
def closingAngle (taken : Bool) : Reader Bool := do
  if taken then return false
  if ← acceptSymbol ">" then return false
  expectSymbol ">>"
  return true

/-- The field of a record: a type, with a name before it if two words come. -/
def recordField (levels : Levels) (inner : Reader TypeRead) : Reader Bool := do
  if ← isWordAt 0 then
    if (← isWordAt 1) || (← comesSymbolAt 1 ":") then
      let _ ← ident
      let _ ← acceptSymbol ":"
  let (_, taken) ← inner
  if ← acceptWord "OPTIONS" then
    let _ ← bracketedItems do
      let _ ← ident
      expectSymbol "="
      levels.expression
  return taken

/-- Further fields of a record, at most `limit` of them, unless the closing angle bracket is `taken`;
tells whether it is then. -/
def fieldsFrom (levels : Levels) (inner : Reader TypeRead) : Nat → Bool → Reader Bool
  | 0, taken => return taken
  | limit + 1, taken => do
      if taken then return true
      if ← acceptSymbol "," then fieldsFrom levels inner limit (← recordField levels inner)
      else return false

/-- Further fields of a record, unless the closing angle bracket is `taken`; tells whether it is
then. -/
def furtherFields (levels : Levels) (inner : Reader TypeRead) (taken : Bool) : Reader Bool := do
  fieldsFrom levels inner (← remaining) taken

/-- The fields of a record between angle brackets, if one opens here: whether there are any, and
whether the bracket behind them was taken too. -/
def recordFields (levels : Levels) (inner : Reader TypeRead) : Reader (Bool × Bool) := do
  if !(← acceptSymbol "<") then return (false, false)
  let first ← recordField levels inner
  let taken ← furtherFields levels inner first
  return (true, ← closingAngle taken)

/-- A data type that one dialect alone knows, which holds other types. -/
def compositeType
    (levels : Levels)
    (inner : Reader TypeRead)
    (word : String) : Reader (Option Bool) := do
  let plain : Reader Unit := do
    let (_, taken) ← inner
    require !taken
  match word with
  | "STRUCT" =>
      skip
      return some (← recordFields levels inner).2
  | "UNION" =>
      skip
      let _ ← bracketedList do
        let _ ← ident
        plain
      return some false
  | "NULLABLE" | "LOWCARDINALITY" =>
      skip
      bracketed plain
      return some false
  | "MAP" =>
      skip
      bracketed do
        plain
        expectSymbol ","
        plain
      return some false
  | "NESTED" =>
      skip
      let _ ← bracketedList levels.column
      return some false
  | "TUPLE" =>
      skip
      let _ ← bracketedList (recordField levels inner)
      return some false
  | _ => return none

/-- A data type with a known name that holds no other types; none if another one comes. -/
def simpleType (levels : Levels) (word : String) : Reader (Option DataType) := do
  if plainTypes.contains word then
    skip
    return some .known
  if sizedTypes.contains word then
    skip
    optionalPrecision
    return some .known
  if integerTypes.contains word then
    skip
    optionalPrecision
    integerMarks word
    return some .known
  if scaledTypes.contains word then
    skip
    optionalPrecisionAndSignedScale
    if ["DECIMAL", "DEC", "FLOAT"].contains word then let _ ← unsignedMark
    return some .known
  match word with
  | "REAL" =>
      skip
      let _ ← unsignedMark
      return some .known
  | "DOUBLE" =>
      skip
      if !(← acceptWord "PRECISION") then optionalPrecisionAndSignedScale
      let _ ← unsignedMark
      return some .known
  | "VARCHAR" | "NVARCHAR" =>
      skip
      characterLength
      return some .known
  | "CHAR" | "CHARACTER" =>
      skip
      characterType
      return some .known
  | "VARBINARY" =>
      skip
      byteLength
      return some .known
  | "BINARY" =>
      skip
      optionalPrecision
      return some .known
  | "BIT" =>
      skip
      let _ ← acceptWord "VARYING"
      optionalPrecision
      return some .known
  | "TIMESTAMP" | "TIME" =>
      skip
      optionalPrecision
      timeZone
      return some .known
  | "DATETIME64" =>
      skip
      bracketed do
        wholeNumber
        if ← acceptSymbol "," then let _ ← literalString
      return some .known
  | "INTERVAL" =>
      skip
      if ← dialectIn [.generic, .postgresql] then
        intervalFields
        optionalPrecision
      return some .interval
  | "FIXEDSTRING" =>
      skip
      bracketed wholeNumber
      return some .known
  | "ENUM" | "ENUM8" | "ENUM16" =>
      skip
      enumerationMembers
      return some .known
  | "SET" =>
      skip
      stringList
      return some .known
  | "SIGNED" | "UNSIGNED" =>
      skip
      let _ ← acceptWord "INTEGER"
      return some .known
  | "ANY" => if ← acceptWords ["ANY", "TYPE"] then return some .known else return none
  | "TABLE" =>
      skip
      if ← comesSymbol "(" then let _ ← bracketedList levels.column
      return some .known
  | "TSVECTOR" | "TSQUERY" =>
      if ← dialectIn [.generic, .postgresql] then
        skip
        return some .known
      else return none
  | _ => return none

/-- A data type that is no list; `inner` reads the types inside it. -/
def elementType (levels : Levels) (inner : Reader TypeRead) : Reader TypeRead := do
  let word ← nextKeyword
  if word == "ARRAY" then
    skip
    expectSymbol "<"
    let (_, taken) ← inner
    return (.known, ← closingAngle taken)
  if ← dialectIn [.generic] then
    match ← compositeType levels inner word with
    | some taken => return (.known, taken)
    | none => pure ()
  match ← simpleType levels word with
  | some found => return (found, false)
  | none => return (← customType, false)

/-- A data type in which others are nested at most `depth` deep; square brackets behind it make a
list of it. -/
def nestedType (levels : Levels) : Nat → Reader TypeRead
  | 0 => unexpected
  | depth + 1 => do
      let (element, taken) ← elementType levels (nestedType levels depth)
      if ← dialectIn [.generic, .postgresql] then
        let dimensions ← many do
          if ← acceptSymbol "[" then
            let _ ← attempt wholeNumber
            expectSymbol "]"
            return some ()
          else return none
        return (if dimensions.isEmpty then element else .known, taken)
      else return (element, taken)

/-- A data type that may be nested in another one. -/
def innerType (levels : Levels) : Reader TypeRead := do
  nestedType levels ((← remaining) + 1)

/-- A data type. -/
def dataType (levels : Levels) : Reader DataType := do
  let (found, taken) ← innerType levels
  require !taken
  return found

end Grammar
end Sql
end TableReach
