import TableReach.Document.Scan

/-!
# Keys and scalars of TOML
-/

namespace TableReach
namespace Document
namespace Toml

/-- The text behind blanks on one line. -/
def skipBlanks (text : List Char) : List Char :=
  text.dropWhile fun character => character == ' ' || character == '\t'

/-- The text behind the end of a line, if it ends here. -/
def afterLine? : List Char → Option (List Char)
  | [] => some []
  | '\n' :: rest => some rest
  | '\r' :: '\n' :: rest => some rest
  | _ => none

/-- The text behind a comment, if one starts here. -/
def afterComment? (text : List Char) : Option (List Char) :=
  match text with
  | '#' :: rest =>
      let body := rest.takeWhile (· != '\n')
      let kept := if body.getLast? == some '\r' then body.dropLast else body
      if kept.any isControl then none else some (rest.drop kept.length)
  | _ => some text

/-- The text behind blanks, comments and ends of lines. -/
def skipLines? : Nat → List Char → Option (List Char)
  | 0, text => some text
  | limit + 1, text => do
      let rest ← afterComment? (skipBlanks text)
      match rest with
      | [] => some []
      | _ =>
          match afterLine? rest with
          | some behind => skipLines? limit behind
          | none => some rest

/-- The character that stands behind a backslash, and the text behind it. -/
def escape? : List Char → Option (Char × List Char)
  | 'b' :: rest => some (Char.ofNat 8, rest)
  | 't' :: rest => some ('\t', rest)
  | 'n' :: rest => some ('\n', rest)
  | 'f' :: rest => some (Char.ofNat 12, rest)
  | 'r' :: rest => some ('\r', rest)
  | 'e' :: rest => some (Char.ofNat 27, rest)
  | '"' :: rest => some ('"', rest)
  | '\\' :: rest => some ('\\', rest)
  | 'x' :: rest => do
      let (code, behind) ← hexDigits? 2 rest
      some (← characterOf? code, behind)
  | 'u' :: rest => do
      let (code, behind) ← hexDigits? 4 rest
      some (← characterOf? code, behind)
  | 'U' :: rest => do
      let (code, behind) ← hexDigits? 8 rest
      some (← characterOf? code, behind)
  | _ => none

/-- A string on one line behind its opening quote; `escapes` says whether a backslash escapes. -/
def string? (quote : Char) (escapes : Bool) : Nat → List Char → Option (List Char × List Char)
  | 0, _ => none
  | _ + 1, [] => none
  | limit + 1, character :: rest =>
      if character == quote then some ([], rest)
      else if character == '\\' && escapes then do
        let (value, behind) ← escape? rest
        let (others, remaining) ← string? quote escapes limit behind
        some (value :: others, remaining)
      else if isControl character then none
      else do
        let (others, remaining) ← string? quote escapes limit rest
        some (character :: others, remaining)

/-- The text behind a backslash that ends a line: everything blank is left out. -/
def afterLineEscape? (text : List Char) : Option (List Char) :=
  let rest := skipBlanks text
  match afterLine? rest with
  | some behind =>
      if rest.isEmpty then none
      else some (behind.dropWhile fun character =>
        character == ' ' || character == '\t' || character == '\n' || character == '\r')
  | none => none

/-- A string over several lines behind its opening quotes. -/
def longString? (quote : Char) (escapes : Bool) : Nat → List Char → Option (List Char × List Char)
  | 0, _ => none
  | _ + 1, [] => none
  | limit + 1, character :: rest =>
      let quotes := ((character :: rest).takeWhile (· == quote)).length
      if 3 ≤ quotes then
        if quotes ≤ 5 then some (List.replicate (quotes - 3) quote, (character :: rest).drop quotes)
        else none
      else if character == '\\' && escapes then
        match afterLineEscape? rest with
        | some behind => longString? quote escapes limit behind
        | none => do
            let (value, behind) ← escape? rest
            let (others, remaining) ← longString? quote escapes limit behind
            some (value :: others, remaining)
      else if character == '\r' && rest.head? != some '\n' then none
      else if isControl character && character != '\n' && character != '\r' then none
      else do
        let (others, remaining) ← longString? quote escapes limit rest
        some (character :: others, remaining)

/-- Anything quoted, behind its first quote. -/
def quoted? (quote : Char) (escapes : Bool) (rest : List Char) : Option (List Char × List Char) :=
  let limit := rest.length + 1
  match rest with
  | second :: third :: behind =>
      if second == quote && third == quote then
        let body :=
          match behind with
          | '\n' :: lines => lines
          | '\r' :: '\n' :: lines => lines
          | _ => behind
        longString? quote escapes limit body
      else string? quote escapes limit rest
  | _ => string? quote escapes limit rest

/-- A character of a key without quotes. -/
def isBareKey (character : Char) : Bool :=
  character.isAlphanum || character == '_' || character == '-'

/-- One part of a key, and the text behind it. -/
def keyPart? : List Char → Option (String × List Char)
  | '"' :: rest => do
      let (text, behind) ← string? '"' true (rest.length + 1) rest
      some (String.ofList text, behind)
  | '\x27' :: rest => do
      let (text, behind) ← string? '\x27' false (rest.length + 1) rest
      some (String.ofList text, behind)
  | text =>
      match text.takeWhile isBareKey with
      | [] => none
      | found => some (String.ofList found, text.dropWhile isBareKey)

/-- A key, which may be dotted, and the text behind it and the blanks that follow. -/
def key? : Nat → List Char → Option (List String × List Char)
  | 0, _ => none
  | limit + 1, text => do
      let (first, rest) ← keyPart? (skipBlanks text)
      match skipBlanks rest with
      | '.' :: behind => do
          let (others, remaining) ← key? limit behind
          some (first :: others, remaining)
      | remaining => some ([first], remaining)

/-- Digits with single underscores between them. -/
def plainDigits? (base : Nat) (text : List Char) : Option (List Char) :=
  let digits := text.filter (· != '_')
  let isDigit (character : Char) : Bool :=
    ((hexValue? character).map fun value => decide (value < base)).getD false
  let spaced : Bool :=
    (text.zip (text.drop 1)).all fun pair => isDigit pair.1 || isDigit pair.2
  if digits.isEmpty || !digits.all isDigit || text.head? == some '_' ||
      text.getLast? == some '_' || !spaced then none
  else some digits

/-- A whole number. -/
def integer? (token : List Char) : Option Document :=
  let based (base : Nat) (digits : List Char) : Option Document := do
    let value ← number? base (← plainDigits? base digits)
    if value < Nat.pow 2 63 then some (.integer value) else none
  match token with
  | '0' :: 'x' :: digits => based 16 digits
  | '0' :: 'o' :: digits => based 8 digits
  | '0' :: 'b' :: digits => based 2 digits
  | _ => do
      let negative := token.head? == some '-'
      let unsigned := if negative || token.head? == some '+' then token.drop 1 else token
      let digits ← plainDigits? 10 unsigned
      if digits.head? == some '0' && 1 < digits.length then none
      else
        let value ← number? 10 digits
        if negative then
          if value ≤ Nat.pow 2 63 then some (.integer (-(value : Int))) else none
        else if value < Nat.pow 2 63 then some (.integer value)
        else none

/-- A number with a fraction or an exponent. -/
def isFloat (token : List Char) : Bool :=
  let unsigned :=
    if token.head? == some '-' || token.head? == some '+' then token.drop 1 else token
  if unsigned == "inf".toList || unsigned == "nan".toList then true
  else
    let isMark (character : Char) : Bool := character == 'e' || character == 'E'
    let mantissa := unsigned.takeWhile fun character => !isMark character
    let power := unsigned.drop (mantissa.length + 1)
    let hasPower := mantissa.length < unsigned.length
    let whole := mantissa.takeWhile (· != '.')
    let fraction := mantissa.drop (whole.length + 1)
    let hasFraction := whole.length < mantissa.length
    let unsignedPower :=
      if power.head? == some '-' || power.head? == some '+' then power.drop 1 else power
    (hasPower || hasFraction) && (plainDigits? 10 whole).isSome &&
      !(whole.head? == some '0' && 1 < whole.length) &&
      (!hasFraction || (plainDigits? 10 fraction).isSome) &&
      (!hasPower || (plainDigits? 10 unsignedPower).isSome)

/-- The token has the given shape, in which `0` stands for a digit. -/
def hasShape : List Char → List Char → Bool
  | [], [] => true
  | expected :: shape, character :: token =>
      (if expected == '0' then character.isDigit else expected == character) &&
        hasShape shape token
  | _, _ => false

/-- A time of day, with a fraction of a second and an offset allowed. -/
def isTime (token : List Char) (offsetAllowed : Bool) : Bool :=
  let clock := token.take 8
  let rest := token.drop 8
  let behind :=
    match rest with
    | '.' :: digits => if (digits.head?.map Char.isDigit).getD false
        then digits.dropWhile Char.isDigit else rest
    | _ => rest
  hasShape "00:00:00".toList clock &&
    (behind.isEmpty || (offsetAllowed &&
      (behind == ['Z'] || behind == ['z'] || hasShape "+00:00".toList behind ||
        hasShape "-00:00".toList behind)))

/-- A date, a time, or both. -/
def isMoment (token : List Char) : Bool :=
  isTime token false ||
    (hasShape "0000-00-00".toList (token.take 10) &&
      match token.drop 10 with
      | [] => true
      | mark :: time => (mark == 'T' || mark == 't' || mark == ' ') && isTime time true)

/-- A value without quotes or brackets. -/
def bare? (token : List Char) : Option Document :=
  if token == "true".toList then some (.bool true)
  else if token == "false".toList then some (.bool false)
  else
    match integer? token with
    | some found => some found
    | none => if isFloat token || isMoment token then some .other else none

/-- A character of a value without quotes or brackets. -/
def isBareValue (character : Char) : Bool :=
  character.isAlphanum || character == '_' || character == '-' || character == '+' ||
    character == '.' || character == ':'

/-- A value without quotes or brackets, and the text behind it.  One blank may stand between a
date and a time. -/
def bareValue? (text : List Char) : Option (Document × List Char) := do
  let token := text.takeWhile isBareValue
  let rest := text.dropWhile isBareValue
  match rest with
  | ' ' :: next =>
      let time := next.takeWhile isBareValue
      if hasShape "0000-00-00".toList token && isMoment (token ++ ' ' :: time) then
        some (.other, next.dropWhile isBareValue)
      else some (← bare? token, rest)
  | _ => some (← bare? token, rest)

end Toml
end Document
end TableReach
