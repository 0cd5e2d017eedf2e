import TableReach.Sql.Lexer.Operator
import TableReach.Sql.Lexer.Quoted

/-!
# Numbers

Numbers with a fraction and an exponent, hexadecimal numbers, and what else
starts with a digit or a period: a period alone, and in one dialect names.
-/

namespace TableReach
namespace Sql
namespace Lexer

/-- A run of digits, in which single underscores may divide them, and the text behind it. -/
def digitRun
    (isDigit : Char → Bool)
    (underscores : Bool) : List Char → List Char × List Char
  | [] => ([], [])
  | character :: rest =>
      if isDigit character ||
          (underscores && character == '_' && (rest.head?.map isHexDigit).getD false) then
        let parts := digitRun isDigit underscores rest
        (character :: parts.1, parts.2)
      else ([], character :: rest)

/-- What stands where an exponent may stand. -/
inductive Exponent where
  /-- Nothing like an exponent. -/
  | absent
  /-- The letter of an exponent without digits behind it. -/
  | letterOnly
  /-- An exponent, and the text behind it. -/
  | present (text rest : List Char)

/-- The exponent at the start of a text. -/
def exponent : List Char → Exponent
  | mark :: rest =>
      if mark == 'e' || mark == 'E' then
        let sign := (rest.take 1).filter fun character => character == '+' || character == '-'
        let digits := rest.drop sign.length
        if (digits.head?.map Char.isDigit).getD false then
          .present (mark :: sign ++ digits.takeWhile Char.isDigit) (digits.dropWhile Char.isDigit)
        else .letterOnly
      else .absent
  | [] => .absent

/-- A number whose mark of length may follow. -/
def ofDigits (digits rest : List Char) : Scan :=
  let long := rest.head? == some 'L'
  some (.number (String.ofList digits) long, if long then rest.drop 1 else rest)

/-- A number behind its fraction.  Where names can start with digits, further letters make it a
name, and so does a period before a number that has the letter of an exponent. -/
def scanPower
    (dialect : Dialect)
    (previous : Option Token)
    (digits rest : List Char) : Scan :=
  let dotted := dialect.namesStartWithDigits && previous == some (.symbol ".")
  let name (text behind : List Char) : Scan := some (.word (String.ofList text) none, behind)
  match exponent rest with
  | .absent =>
      let letters := rest.takeWhile dialect.continuesName
      if dialect.namesStartWithDigits && !letters.isEmpty then
        name (digits ++ letters) (rest.drop letters.length)
      else ofDigits digits rest
  | .letterOnly => if dotted then name digits rest else ofDigits digits rest
  | .present power behind =>
      if dotted then name (digits ++ power) behind else ofDigits (digits ++ power) behind

/-- A number, a period, or a name that starts with digits. -/
def scanNumber
    (dialect : Dialect)
    (previous : Option Token)
    (text : List Char) : Scan :=
  let afterWord := (previous.map Token.isWord).getD false
  let underscores := dialect == .postgresql
  match text with
  | '.' :: '_' :: rest => if afterWord then Scan.ofSymbol "." ('_' :: rest) else none
  | _ =>
      let whole := digitRun Char.isDigit underscores text
      if whole.1 == ['0'] && whole.2.head? == some 'x' then
        some (.literal .hexadecimal "", (digitRun isHexDigit underscores (whole.2.drop 1)).2)
      else
        let point := whole.2.head? == some '.'
        let rest := if point then whole.2.drop 1 else whole.2
        if whole.1.isEmpty && dialect.namesStartWithDigits && afterWord then
          Scan.ofSymbol "." rest
        else
          let fraction := digitRun Char.isDigit underscores rest
          let digits := whole.1 ++ (if point then ['.'] else []) ++ fraction.1
          if digits == ['.'] then Scan.ofSymbol "." rest
          else scanPower dialect previous digits fraction.2

end Lexer
end Sql
end TableReach
