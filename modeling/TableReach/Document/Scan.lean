import TableReach.Document.Basic

/-!
# Reading characters

What the readers of all formats share: digits, and characters given by their code.
-/

namespace TableReach
namespace Document

/-- The value of a hexadecimal digit. -/
def hexValue? (character : Char) : Option Nat :=
  if character.isDigit then some (character.toNat - '0'.toNat)
  else if 'a' ≤ character && character ≤ 'f' then some (character.toNat - 'a'.toNat + 10)
  else if 'A' ≤ character && character ≤ 'F' then some (character.toNat - 'A'.toNat + 10)
  else none

/-- The number that digits of a base stand for. -/
def number? (base : Nat) (digits : List Char) : Option Nat :=
  digits.foldlM (fun total digit => do
    let value ← hexValue? digit
    if value < base then some (total * base + value) else none) 0

/-- The number of the next hexadecimal digits, and the text behind them. -/
def hexDigits? (count : Nat) (text : List Char) : Option (Nat × List Char) := do
  let digits := text.take count
  if digits.length < count then none
  else some (← number? 16 digits, text.drop count)

/-- The character of a code, if the code stands for one. -/
def characterOf? (code : Nat) : Option Char :=
  if code < 0xD800 || (0xDFFF < code && code ≤ 0x10FFFF) then some (Char.ofNat code) else none

/-- A character that is neither shown nor a tab. -/
def isControl (character : Char) : Bool :=
  (character.toNat < 0x20 && character != '\t') || character.toNat == 0x7F

end Document
end TableReach
