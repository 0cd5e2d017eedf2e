import TableReach.Text.Search

/-!
# Repair of fragments

Removing markup can leave a statement with fragments: a connective in front of
the first condition, an empty `WHERE`, a comma after the last column.  Each rule
recognizes one kind of fragment and says what stands in its place.  The rules are
tried in a fixed order, in at most `passLimit` passes.
-/

namespace TableReach
namespace Template

open Text

/-- The text behind `AND` or `OR`. -/
def afterConnective? (text : List Char) : Option (List Char) :=
  match afterKeyword? "AND".toList text with
  | some rest => some rest
  | none => afterKeyword? "OR".toList text

/-- The text behind `word` and at least one blank. -/
def afterKeywordAndBlanks? (word text : List Char) : Option (List Char) :=
  (afterKeyword? word text).bind afterBlanks?

/-- Succeed at the end of the text only. -/
def atEnd? : List Char → Option Unit
  | [] => some ()
  | _ :: _ => none

/-- Succeed where a condition holds. -/
def check? (condition : Bool) : Option Unit :=
  if condition then some () else none

/-- The kinds of fragment that are repaired. -/
inductive RepairRule where
  | leadingConnective
  | duplicateConnective
  | duplicateWhere
  | whereConnective
  | trailingConnective
  | emptyWhere
  | trailingWhere
  | danglingComma
  | fromConnective
  | bareFrom
  | bareSelect
deriving DecidableEq

namespace RepairRule

/-- The rules in the order in which they are tried. -/
def all : List RepairRule :=
  [leadingConnective, duplicateConnective, duplicateWhere, whereConnective, trailingConnective,
    emptyWhere, trailingWhere, danglingComma, fromConnective, bareFrom, bareSelect]

/-- The name of a rule in reports. -/
def name : RepairRule → String
  | leadingConnective => "leading-connective"
  | duplicateConnective => "duplicate-connective"
  | duplicateWhere => "duplicate-where"
  | whereConnective => "where-connective"
  | trailingConnective => "trailing-connective"
  | emptyWhere => "empty-where"
  | trailingWhere => "trailing-where"
  | danglingComma => "dangling-comma"
  | fromConnective => "from-connective"
  | bareFrom => "bare-from"
  | bareSelect => "bare-select"

/-- The text behind a clause that can follow `WHERE` only by mistake. -/
def afterClause? (text : List Char) : Option (List Char) :=
  let two (first second : String) : Option (List Char) :=
    (afterKeywordAndBlanks? first.toList text).bind (afterKeyword? second.toList)
  two "ORDER" "BY" <|> two "GROUP" "BY" <|> afterKeyword? "HAVING".toList text <|>
    afterKeyword? "LIMIT".toList text

/-- The text behind what makes a comma dangle: the next clause, a closing bracket or the end. -/
def afterListEnd? (text : List Char) : Option (List Char) :=
  let clause (word : String) : Option (List Char) := do
    let rest ← afterKeyword? word.toList text
    check? (endsWord rest)
    some rest
  clause "FROM" <|> clause "WHERE" <|> afterExact? [')'] text <|> (atEnd? text).map fun _ => []

/-- A character of a table name as it may stand after `FROM`. -/
def isNameCharacter (character : Char) : Bool :=
  isWord character || character == '\x60' || character == '"' || character == '\x27' ||
    character == '.'

/-- What a rule recognizes, and what stands in its place. -/
def recognize : RepairRule → Recognizer (List Char)
  | leadingConnective => fun before text => do
      check? before.isNone
      let rest ← afterConnective? (trimLeft text)
      let rest ← afterBlanks? rest
      some ([], rest)
  | duplicateConnective => fun before text => do
      check? (startsWord before)
      let rest ← afterConnective? text
      let rest ← afterBlanks? rest
      let rest ← afterConnective? rest
      check? (endsWord rest)
      some ("AND".toList, rest)
  | duplicateWhere => fun before text => do
      check? (startsWord before)
      let rest ← afterKeywordAndBlanks? "WHERE".toList text
      let rest ← afterKeyword? "WHERE".toList rest
      check? (endsWord rest)
      some ("WHERE".toList, rest)
  | whereConnective => fun before text => do
      check? (startsWord before)
      let rest ← afterKeywordAndBlanks? "WHERE".toList text
      let rest ← afterConnective? rest
      let rest ← afterBlanks? rest
      some ("WHERE ".toList, rest)
  | trailingConnective => fun _ text => do
      let rest ← afterBlanks? text
      let rest ← afterConnective? rest
      atEnd? (trimLeft rest)
      some ([], [])
  | emptyWhere => fun before text => do
      check? (startsWord before)
      let clause ← afterKeywordAndBlanks? "WHERE".toList text
      let rest ← afterClause? clause
      check? (endsWord rest)
      some (consumed clause rest, rest)
  | trailingWhere => fun before text => do
      let word := trimLeft text
      check? (word.length < text.length || startsWord before)
      let rest ← afterKeyword? "WHERE".toList word
      atEnd? (trimLeft rest)
      some ([], [])
  | danglingComma => fun _ text => do
      let rest ← afterExact? [','] text
      let next := trimLeft rest
      let rest ← afterListEnd? next
      some (' ' :: consumed next rest, rest)
  | fromConnective => fun before text => do
      check? (startsWord before)
      let table ← afterKeywordAndBlanks? "FROM".toList text
      let _ ← table.head?.filter isNameCharacter
      let behind := table.dropWhile isNameCharacter
      let rest ← afterBlanks? behind
      let connective := (afterKeywordAndBlanks? "WHERE".toList rest).getD rest
      let rest ← afterConnective? connective
      check? (endsWord rest)
      some ("FROM ".toList ++ consumed table behind ++ " WHERE 1=1 ".toList ++
        consumed connective rest, rest)
  | bareFrom => fun before text => do
      check? before.isNone
      let clause := trimLeft text
      let rest ← afterKeywordAndBlanks? "FROM".toList clause
      let _ ← rest.head?.filter isWord
      some ("SELECT * ".toList ++ consumed clause (rest.drop 1), rest.drop 1)
  | bareSelect => fun before text => do
      check? before.isNone
      let rest ← afterKeyword? "SELECT".toList (trimLeft text)
      atEnd? (trimLeft rest)
      some ("SELECT 1".toList, [])

/-- Apply a rule everywhere.  It fails where it would change nothing. -/
def mend? (rule : RepairRule) (text : List Char) : Option (List Char) :=
  let changed := replaceAll rule.recognize text
  if changed == text then none else some changed

end RepairRule

/-- A text under repair, with the rules used so far in the order of their first use. -/
structure Repaired where
  /-- The text. -/
  text : List Char
  /-- The rules used so far. -/
  repairs : List RepairRule
deriving DecidableEq

namespace Repaired

/-- Try one rule. -/
def step (state : Repaired) (rule : RepairRule) : Repaired :=
  match rule.mend? state.text with
  | none => state
  | some changed =>
      { text := collapse changed
        repairs := if rule ∈ state.repairs then state.repairs else state.repairs ++ [rule] }

/-- Try every rule once, in order. -/
def pass (state : Repaired) : Repaired :=
  RepairRule.all.foldl step state

/-- Run a number of passes.  A pass in which no rule applies changes nothing, and neither do the
passes after it. -/
def passes : Nat → Repaired → Repaired
  | 0, state => state
  | count + 1, state => passes count state.pass

end Repaired

/-- How many passes are made. -/
def passLimit : Nat := 4

/-- Repair the fragments of a text. -/
def repair (text : List Char) : Repaired :=
  Repaired.passes passLimit { text := text, repairs := [] }

end Template
end TableReach
