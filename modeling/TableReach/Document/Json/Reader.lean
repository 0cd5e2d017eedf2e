import TableReach.Document.Scan

/-!
# Reading JSON

A strict reader: no comments, no trailing commas, no text behind the value.
-/

namespace TableReach
namespace Document
namespace Json

/-- The text behind blanks. -/
def skipBlanks (text : List Char) : List Char :=
  text.dropWhile fun character =>
    character == ' ' || character == '\t' || character == '\n' || character == '\r'

/-- What an escape stands for. -/
inductive Escape where
  /-- A character. -/
  | character (value : Char)
  /-- Half of a pair without the other half. -/
  | loneHalf

/-- A character by its code of four digits, or by two such codes that make a pair; and the text
behind. -/
def unicodeEscape? (text : List Char) : Option (Escape × List Char) := do
  let (first, rest) ← hexDigits? 4 text
  match characterOf? first with
  | some value => some (.character value, rest)
  | none =>
      if first < 0xDC00 then
        match rest with
        | '\\' :: 'u' :: behind => do
            let (second, remaining) ← hexDigits? 4 behind
            if 0xDC00 ≤ second && second ≤ 0xDFFF then
              let code := 0x10000 + (first - 0xD800) * 0x400 + (second - 0xDC00)
              some (.character (Char.ofNat code), remaining)
            else some (.loneHalf, rest)
        | _ => some (.loneHalf, rest)
      else some (.loneHalf, rest)

/-- What stands behind a backslash, and the text behind it. -/
def escape? : List Char → Option (Escape × List Char)
  | '"' :: rest => some (.character '"', rest)
  | '\\' :: rest => some (.character '\\', rest)
  | '/' :: rest => some (.character '/', rest)
  | 'b' :: rest => some (.character (Char.ofNat 8), rest)
  | 'f' :: rest => some (.character (Char.ofNat 12), rest)
  | 'n' :: rest => some (.character '\n', rest)
  | 'r' :: rest => some (.character '\r', rest)
  | 't' :: rest => some (.character '\t', rest)
  | 'u' :: rest => unicodeEscape? rest
  | _ => none

/-- A string behind its opening quote: its content, absent if it holds half of a pair, and the
text behind it. -/
def string? : Nat → List Char → Option (Option (List Char) × List Char)
  | 0, _ => none
  | _ + 1, [] => none
  | limit + 1, character :: rest =>
      if character == '"' then some (some [], rest)
      else if character == '\\' then do
        let (escape, behind) ← escape? rest
        let (content, remaining) ← string? limit behind
        match escape with
        | .character value => some (content.map fun others => value :: others, remaining)
        | .loneHalf => some (none, remaining)
      else if character.toNat < 0x20 then none
      else do
        let (content, remaining) ← string? limit rest
        some (content.map fun others => character :: others, remaining)

/-- Digits, at least one, and the text behind them. -/
def digits? (text : List Char) : Option (List Char × List Char) :=
  match text.takeWhile Char.isDigit with
  | [] => none
  | found => some (found, text.dropWhile Char.isDigit)

/-- The text behind a fraction, if one starts here, and whether one did. -/
def fraction? : List Char → Option (Bool × List Char)
  | '.' :: rest => (digits? rest).map fun found => (true, found.2)
  | text => some (false, text)

/-- The text behind an exponent, if one starts here, and whether one did. -/
def exponent? : List Char → Option (Bool × List Char)
  | [] => some (false, [])
  | mark :: rest =>
      if mark == 'e' || mark == 'E' then
        let digits :=
          match rest with
          | '+' :: behind => behind
          | '-' :: behind => behind
          | _ => rest
        (digits? digits).map fun found => (true, found.2)
      else some (false, mark :: rest)

/-- A number and the text behind it. -/
def number? (text : List Char) : Option (Document × List Char) := do
  let negative := text.head? == some '-'
  let (whole, rest) ← digits? (if negative then text.drop 1 else text)
  if whole.head? == some '0' && 1 < whole.length then none
  else
    let (isFraction, rest) ← fraction? rest
    let (isPower, rest) ← exponent? rest
    if isFraction || isPower then some (.other, rest)
    else
      let value := (Document.number? 10 whole).getD 0
      if negative then
        some (if value == 0 then .other else .integer (-(value : Int)), rest)
      else some (.integer value, rest)

/-- The text behind the characters `word`. -/
def after? (word : String) (text : List Char) : Option (List Char) :=
  if word.toList.isPrefixOf text then some (text.drop word.length) else none

mutual

/-- A value and the text behind it, nested at most `limit` deep. -/
def value? : Nat → List Char → Option (Document × List Char)
  | 0, _ => none
  | limit + 1, text =>
      match skipBlanks text with
      | '"' :: rest => do
          let (content, behind) ← string? (rest.length + 1) rest
          some ((content.map fun found => Document.string (String.ofList found)).getD .other,
            behind)
      | '[' :: rest =>
          match skipBlanks rest with
          | ']' :: behind => some (.list [], behind)
          | items => (items? limit items).map fun found => (.list found.1, found.2)
      | '\x7b' :: rest =>
          match skipBlanks rest with
          | '\x7d' :: behind => some (.table [], behind)
          | entries => (entries? limit entries).map fun found => (.table found.1, found.2)
      | 'n' :: rest => (after? "ull" rest).map fun behind => (.null, behind)
      | 't' :: rest => (after? "rue" rest).map fun behind => (.bool true, behind)
      | 'f' :: rest => (after? "alse" rest).map fun behind => (.bool false, behind)
      | digits => number? digits

/-- The items of a list up to its end. -/
def items? : Nat → List Char → Option (List Document × List Char)
  | 0, _ => none
  | limit + 1, text => do
      let (first, rest) ← value? limit text
      match skipBlanks rest with
      | ',' :: behind => do
          let (others, remaining) ← items? limit behind
          some (first :: others, remaining)
      | ']' :: behind => some ([first], behind)
      | _ => none

/-- The entries of a table up to its end. -/
def entries? : Nat → List Char → Option (List (String × Document) × List Char)
  | 0, _ => none
  | limit + 1, text =>
      match skipBlanks text with
      | '"' :: rest => do
          let (content, behind) ← string? (rest.length + 1) rest
          let key ← content
          match skipBlanks behind with
          | ':' :: behind => do
              let (first, rest) ← value? limit behind
              let entry := (String.ofList key, first)
              match skipBlanks rest with
              | ',' :: behind => do
                  let (others, remaining) ← entries? limit behind
                  some (entry :: others, remaining)
              | '\x7d' :: behind => some ([entry], behind)
              | _ => none
          | _ => none
      | _ => none

end

/-- The document of a JSON text. -/
def read? (text : String) : Option Document := do
  let characters := text.toList
  let (document, rest) ← value? (2 * characters.length + 4) characters
  if (skipBlanks rest).isEmpty then some document else none

end Json
end Document
end TableReach
