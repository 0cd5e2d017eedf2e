/-!
# Documents

A document is the tree of values that a text in one of the supported formats
stands for.  Tables keep their entries in order and may hold a key more than once:
whether that is a mistake is for the reader of the values to say.
-/

namespace TableReach

/-- The formats of documents. -/
inductive Format where
  | json
  | yaml
  | toml
deriving DecidableEq

/-- A value of a document. -/
inductive Document where
  /-- No value. -/
  | null
  /-- A truth value. -/
  | bool (value : Bool)
  /-- A whole number. -/
  | integer (value : Int)
  /-- A text. -/
  | string (text : String)
  /-- A text without quotes in a format that leaves its type open. -/
  | plain (text : String)
  /-- A text that names its type.  It is written without quotes or not. -/
  | tagged (type : String) (isPlain : Bool) (text : String)
  /-- A single letter, which formats with types keep apart from a text. -/
  | letter (value : Char)
  /-- A value that nothing here is made of: a number with a fraction, a date, a table with a key
  that is no text. -/
  | other
  /-- Values in order. -/
  | list (items : List Document)
  /-- Values by key. -/
  | table (entries : List (String × Document))
deriving Inhabited

end TableReach
