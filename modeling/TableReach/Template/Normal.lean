import TableReach.Template.Markup

/-!
# Normal text

The normal form of a template has no markup and stands on one line.  The
placeholders and tags that were removed on the way are counted.
-/

namespace TableReach
namespace Template

open Text

/-- A text on the way to its normal form, with counts of what was removed so far. -/
structure Normal where
  /-- The text. -/
  text : List Char
  /-- How many placeholders were replaced. -/
  placeholders : Nat
  /-- How many tags were replaced. -/
  tags : Nat
deriving DecidableEq

namespace Normal

/-- Replace every match. -/
def replace
    (recognize : Recognizer (List Char))
    (state : Normal) : Normal :=
  { state with text := replaceAll recognize state.text }

/-- Replace every match and count the matches as placeholders. -/
def replacePlaceholders
    (recognize : Recognizer (List Char))
    (state : Normal) : Normal :=
  { state with
    text := replaceAll recognize state.text
    placeholders := state.placeholders + (findAll recognize state.text).length }

/-- Replace every match and count the matches as tags. -/
def replaceTags
    (recognize : Recognizer (List Char))
    (state : Normal) : Normal :=
  { state with
    text := replaceAll recognize state.text
    tags := state.tags + (findAll recognize state.text).length }

end Normal

/-- The normal form of a template: protected sections are opened first and entities are read
last, so that protected text never looks like markup. -/
def normalize (text : List Char) : Normal :=
  let state : Normal := { text := text, placeholders := 0, tags := 0 }
  let state := state.replace protectedSection
  let state := state.replacePlaceholders placeholder
  let state := state.replace comment
  let state := state.replaceTags keySelection
  let state := state.replaceTags repetition
  let state := state.replaceTags (keywordTag "WHERE".toList)
  let state := state.replaceTags (keywordTag "SET".toList)
  let state := state.replaceTags trimTag
  let state := state.replaceTags anyTag
  let state := state.replace strayMark
  { state with text := collapse (readEntities state.text) }

end Template
end TableReach
