import TableReach.Document.Scan

/-!
# Plain scalars that are no texts

The type of a plain scalar is open: it may be read as no value, a truth value or a
number.
-/

namespace TableReach
namespace Document
namespace Yaml

/-- The words for no value. -/
def nothingWords : List String :=
  ["", "null", "Null", "NULL", "~"]

/-- The words for truth values. -/
def truthWords : List String :=
  ["true", "True", "TRUE", "false", "False", "FALSE"]

/-- The words for numbers that are not finite. -/
def infinityWords : List String :=
  [".inf", ".Inf", ".INF", "+.inf", "+.Inf", "+.INF", "-.inf", "-.Inf", "-.INF", ".nan", ".NaN",
    ".NAN"]

/-- A text without one of two marks before it. -/
def dropSign (text : List Char) : List Char :=
  match text with
  | '+' :: rest => rest
  | '-' :: rest => rest
  | _ => text

/-- Digits with a leading zero, which are no number. -/
def isPadded (text : List Char) : Bool :=
  match dropSign text with
  | '0' :: rest => !rest.isEmpty && rest.all Char.isDigit
  | _ => false

/-- A whole number of 128 bits in a base other than ten. -/
def isBased (text : List Char) : Bool :=
  let bound := if text.head? == some '-' then Nat.pow 2 127 + 1 else Nat.pow 2 128
  let fits (base : Nat) (digits : List Char) : Bool :=
    !digits.isEmpty && ((number? base digits).map fun value => decide (value < bound)).getD false
  match dropSign text with
  | '0' :: 'x' :: digits => fits 16 digits
  | '0' :: 'o' :: digits => fits 8 digits
  | '0' :: 'b' :: digits => fits 2 digits
  | _ => false

/-- The least number that is too large for a float of 64 bits: half a step above the largest. -/
def floatBound : Nat :=
  Nat.pow 2 1024 - Nat.pow 2 970

/-- The number `digits * 10 ^ power`, less `places` decimal places, is in the range of a float. -/
def isInRange (digits : List Char) (power : Int) (places : Nat) : Bool :=
  let significant := digits.dropWhile (· == '0')
  let scale := power - places
  let magnitude := scale + significant.length
  let value := (number? 10 significant).getD 0
  if significant.isEmpty || magnitude < 300 then true
  else if 320 < magnitude then false
  else if 0 ≤ scale then value * Nat.pow 10 scale.toNat < floatBound
  else value < floatBound * Nat.pow 10 (-scale).toNat

/-- A number in decimal digits. -/
def isDecimal (text : List Char) : Bool :=
  let unsigned := dropSign text
  let isMark (character : Char) : Bool := character == 'e' || character == 'E'
  let mantissa := unsigned.takeWhile fun character => !isMark character
  let hasPower := mantissa.length < unsigned.length
  let power := unsigned.drop (mantissa.length + 1)
  let whole := mantissa.takeWhile (· != '.')
  let places := mantissa.drop (whole.length + 1)
  let digits := whole ++ places
  let exponent : Int :=
    let size : Nat := (number? 10 (dropSign power)).getD 0
    if power.head? == some '-' then -(size : Int) else size
  !digits.isEmpty && digits.all Char.isDigit &&
    (!hasPower || (!(dropSign power).isEmpty && (dropSign power).all Char.isDigit)) &&
    isInRange digits exponent places.length

/-- A plain scalar that is not read as a text, or that looks like a number. -/
def isAmbiguous (text : String) : Bool :=
  nothingWords.contains text || truthWords.contains text || infinityWords.contains text ||
    isPadded text.toList || isBased text.toList || isDecimal text.toList

end Yaml
end Document
end TableReach
