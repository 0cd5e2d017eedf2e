import TableReach.Sql.Grammar.Name

/-!
# Patterns of rows

A pattern of rows is made of symbols, which stand for rows, by repetition, by
succession and by choice.  Nothing of it enters the tree.
-/

namespace TableReach
namespace Sql
namespace Grammar

/-- A whole number of 32 bits. -/
def repetitionCount : Reader Unit := wholeNumberBelow (Nat.pow 2 32)

/-- How often a pattern is repeated, between braces behind the opening one. -/
def repetitionBounds : Reader Unit := do
  if ← acceptSymbol "," then
    repetitionCount
    expectSymbol "\x7d"
  else
    repetitionCount
    if ← acceptSymbol "," then
      if ← acceptSymbol "\x7d" then return ()
      repetitionCount
    expectSymbol "\x7d"

/-- The mark of a repetition, if one comes next. -/
def repetition : Reader (Option Unit) := do
  match (← peek).map Lexeme.token with
  | some (.symbol "*") | some (.symbol "+") | some (.placeholder "?") =>
      skip
      return some ()
  | some (.symbol "\x7b") =>
      skip
      repetitionBounds
      return some ()
  | _ => return none

/-- A symbol, a group, or one of the marks for the first and the last row; `inner` reads the pattern
of a group. -/
def patternBase (inner : Reader Unit) : Reader Unit := do
  match (← peek).map Lexeme.token with
  | some (.symbol "^") | some (.placeholder "$") => skip
  | some (.symbol "\x7b") =>
      skip
      expectSymbol "-"
      let _ ← ident
      expectSymbol "-"
      expectSymbol "\x7d"
  | some (.word "PERMUTE" none) =>
      skip
      let _ ← identList
  | some (.symbol "(") => bracketed inner
  | _ => let _ ← ident

/-- A pattern that may be repeated. -/
def repeatedPattern (inner : Reader Unit) : Reader Unit := do
  patternBase inner
  let _ ← many repetition

/-- Patterns that follow one another. -/
def patternSequence (inner : Reader Unit) : Reader Unit := do
  repeatedPattern inner
  let _ ← many do
    if (← comesSymbol ")") || (← comesSymbol "|") then return none
    else return some (← repeatedPattern inner)

/-- A pattern of rows in which groups are nested at most `depth` deep. -/
def nestedRowPattern : Nat → Reader Unit
  | 0 => unexpected
  | depth + 1 => do
      patternSequence (nestedRowPattern depth)
      let _ ← many do
        if ← acceptSymbol "|" then return some (← patternSequence (nestedRowPattern depth))
        else return none

/-- A pattern of rows. -/
def rowPattern : Reader Unit := do
  nestedRowPattern ((← remaining) + 1)

end Grammar
end Sql
end TableReach
