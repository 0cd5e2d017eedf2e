import TableReach.Document.Yaml.Scalar
import TableReach.Document.Yaml.Tag

/-!
# Tokens of YAML

Scanning turns the layout of a text into tokens: a block of entries is opened where
something starts at a deeper column and closed where something starts at a lesser one.
A key need not be marked as one before its colon is seen, so that places where a key
may have started are remembered, and the mark of the key is put in later.  Such a key
stands on one line and is not longer than `longestKey`.
-/

namespace TableReach
namespace Document
namespace Yaml

/-- A token. -/
inductive Token where
  /-- Something said about the document to come. -/
  | directive (content : Directive)
  /-- The start of a document. -/
  | documentStart
  /-- The end of a document. -/
  | documentEnd
  /-- The start of a list of which each item has a line of its own. -/
  | blockList
  /-- The start of a table of which each entry has a line of its own. -/
  | blockTable
  /-- The end of such a list or table. -/
  | blockEnd
  /-- The bracket that opens a list. -/
  | listStart
  /-- The bracket that closes a list. -/
  | listEnd
  /-- The bracket that opens a table. -/
  | tableStart
  /-- The bracket that closes a table. -/
  | tableEnd
  /-- The mark of an item on a line of its own. -/
  | item
  /-- The comma between brackets. -/
  | comma
  /-- The start of a key. -/
  | key
  /-- The start of the value of a key. -/
  | value
  /-- A node that is given elsewhere under a name. -/
  | alias (name : String)
  /-- The name of the node to come. -/
  | anchor (name : String)
  /-- The tag of the node to come. -/
  | tag (content : Tag)
  /-- A scalar, which is plain or not. -/
  | scalar (isPlain : Bool) (text : String)

/-- How many characters long a key without a mark may be. -/
def longestKey : Nat := 1024

/-- A place where a key without a mark may have started. -/
structure KeyStart where
  /-- Nothing but a key can stand there. -/
  isNeeded : Bool
  /-- How many tokens stand before it. -/
  count : Nat
  /-- The place. -/
  place : Cursor

/-- The state of scanning. -/
structure Scanner where
  /-- The place that is reached. -/
  cursor : Cursor
  /-- The tokens so far, the last one first. -/
  tokens : List Token
  /-- How many tokens there are so far. -/
  count : Nat
  /-- The least column of what belongs into the innermost block. -/
  least : Nat
  /-- The least columns of the blocks around it, the innermost first. -/
  outer : List Nat
  /-- The last place where a key may have started, outside of brackets and inside of each open
  bracket, the innermost first. -/
  keys : List (Option KeyStart)
  /-- A key without a mark may start here. -/
  mayStartKey : Bool

namespace Scanner

/-- The start of a text. -/
def start (text : List Char) : Scanner :=
  { cursor := Cursor.start text
    tokens := []
    count := 0
    least := 0
    outer := []
    keys := [none]
    mayStartKey := true }

/-- A bracket is open. -/
def inFlow (scanner : Scanner) : Bool :=
  decide (1 < scanner.keys.length)

/-- The text from here on. -/
def rest (scanner : Scanner) : List Char :=
  scanner.cursor.rest

/-- The scanner behind a token. -/
def put (scanner : Scanner) (token : Token) : Scanner :=
  { scanner with tokens := token :: scanner.tokens, count := scanner.count + 1 }

/-- The scanner with a token behind the first `count` ones. -/
def insert (scanner : Scanner) (count : Nat) (token : Token) : Scanner :=
  { scanner with
    tokens := scanner.tokens.insertIdx (scanner.count - count) token
    count := scanner.count + 1 }

/-- The scanner behind a token that ends where `rest` starts. -/
def putUntil (scanner : Scanner) (token : Token) (rest : List Char) : Scanner :=
  { scanner.put token with cursor := scanner.cursor.moveTo rest }

/-- The scanner behind a mark of some characters. -/
def putMark (scanner : Scanner) (token : Token) (length : Nat) : Scanner :=
  { scanner.put token with cursor := scanner.cursor.advance length }

/-- The scanner, which knows whether a key without a mark may start next. -/
def allowKey (scanner : Scanner) (mayStartKey : Bool) : Scanner :=
  { scanner with mayStartKey := mayStartKey }

/-- Open a block at a column, behind the first `count` tokens, if the column is a deeper one. -/
def openBlock (scanner : Scanner) (column count : Nat) (token : Token) : Scanner :=
  if scanner.inFlow || column < scanner.least then scanner
  else
    { scanner.insert count token with
      least := column + 1
      outer := scanner.least :: scanner.outer }

/-- Close the blocks whose least column is greater than a bound, given the least columns of the
blocks around the innermost one. -/
def closeAbove (bound : Nat) : List Nat → Scanner → Scanner
  | [], scanner => scanner
  | next :: outer, scanner =>
      if bound < scanner.least then
        closeAbove bound outer { scanner.put .blockEnd with least := next, outer := outer }
      else scanner

/-- Close the blocks whose least column is greater than a bound. -/
def closeBlocks (scanner : Scanner) (bound : Nat) : Scanner :=
  if scanner.inFlow then scanner else closeAbove bound scanner.outer scanner

/-- No key has started, unless one is needed. -/
def forgetKey? (scanner : Scanner) : Option Scanner :=
  match scanner.keys with
  | some key :: others =>
      if key.isNeeded then none else some { scanner with keys := none :: others }
  | _ => some scanner

/-- A key may start here, if that is allowed. -/
def rememberKey? (scanner : Scanner) : Option Scanner :=
  if scanner.mayStartKey then do
    let forgotten ← scanner.forgetKey?
    let key : KeyStart :=
      { isNeeded := !scanner.inFlow && scanner.least == scanner.cursor.column + 1
        count := scanner.count
        place := scanner.cursor }
    some { forgotten with keys := some key :: forgotten.keys.drop 1 }
  else some scanner

/-- A key that has started can not be one any more at a place: it starts on a line before, or it is
too long. -/
def isStale (place : Cursor) (key : KeyStart) : Bool :=
  key.place.line < place.line || key.place.index + longestKey < place.index

/-- No key has started too far before, unless one is needed. -/
def forgetStaleKeys? (scanner : Scanner) : Option Scanner := do
  let keys ← scanner.keys.mapM fun found =>
    match found with
    | none => some none
    | some key =>
        if !isStale scanner.cursor key then some (some key)
        else if key.isNeeded then none
        else some none
  some { scanner with keys := keys }

/-- How many characters are blanks, ends of lines or parts of a comment from a column on, and
whether a key without a mark may start behind them.  Outside of brackets a new line may start one,
and no tab stands where one may start. -/
def gap (inFlow : Bool) : Nat → Bool → Bool → List Char → Nat × Bool
  | _, mayStartKey, _, [] => (0, mayStartKey)
  | column, mayStartKey, inComment, character :: rest =>
      let more (mayStartKey inComment : Bool) (column : Nat) : Nat × Bool :=
        let (count, allowed) := gap inFlow column mayStartKey inComment rest
        (count + 1, allowed)
      if isBreak character then more (mayStartKey || !inFlow) false 0
      else if inComment || character == '#' then more mayStartKey true (column + 1)
      else if character == ' ' || (character == '\t' && (inFlow || !mayStartKey)) ||
          (character == '\ufeff' && column == 0) then
        more mayStartKey false (column + 1)
      else (0, mayStartKey)

/-- The place of the next token. -/
def toToken? (scanner : Scanner) : Option Scanner := do
  let (count, mayStartKey) :=
    gap scanner.inFlow scanner.cursor.column scanner.mayStartKey false scanner.rest
  let next : Scanner :=
    { scanner with cursor := scanner.cursor.advance count, mayStartKey := mayStartKey }
  let fresh ← next.forgetStaleKeys?
  some (fresh.closeBlocks (fresh.cursor.column + 1))

/-- Something that stands outside of all blocks. -/
def outside? (scanner : Scanner) : Option Scanner := do
  some ((← (scanner.closeBlocks 0).forgetKey?).allowKey false)

/-- A directive. -/
def directiveToken? (scanner : Scanner) : Option Scanner := do
  let ready ← scanner.outside?
  let (directive, behind) ← directive? (ready.rest.drop 1)
  some (ready.putUntil (.directive directive) (← nextLine? behind))

/-- The mark of a document's start or end. -/
def documentToken? (scanner : Scanner) (token : Token) : Option Scanner := do
  some ((← scanner.outside?).putMark token 3)

/-- A bracket that opens a list or table. -/
def openBracket? (scanner : Scanner) (token : Token) : Option Scanner := do
  let ready ← scanner.rememberKey?
  let opened : Scanner := { ready with keys := none :: ready.keys }
  some ((opened.allowKey true).putMark token 1)

/-- A bracket that closes a list or table. -/
def closeBracket? (scanner : Scanner) (token : Token) : Option Scanner := do
  let ready ← scanner.forgetKey?
  let closed : Scanner :=
    { ready with keys := if ready.inFlow then ready.keys.drop 1 else ready.keys }
  some ((closed.allowKey false).putMark token 1)

/-- A comma. -/
def comma? (scanner : Scanner) : Option Scanner := do
  some (((← scanner.forgetKey?).allowKey true).putMark .comma 1)

/-- A mark before an item or a key, which opens a block if none is open at its column.  Outside of
brackets it stands only where a key may start. -/
def entryMark? (scanner : Scanner) (block token : Token) : Option Scanner :=
  if !scanner.inFlow && !scanner.mayStartKey then none
  else (scanner.openBlock scanner.cursor.column scanner.count block).forgetKey?.map
    fun ready => ready.putMark token 1

/-- The mark of an item. -/
def itemMark? (scanner : Scanner) : Option Scanner := do
  some ((← scanner.entryMark? .blockList .item).allowKey true)

/-- The mark of a key. -/
def keyMark? (scanner : Scanner) : Option Scanner := do
  some ((← scanner.entryMark? .blockTable .key).allowKey (!scanner.inFlow))

/-- The mark of a value.  It makes a key of what may be one. -/
def valueMark? (scanner : Scanner) : Option Scanner :=
  match scanner.keys with
  | some key :: others =>
      let keyed := ({ scanner with keys := none :: others } : Scanner).insert key.count .key
      some (((keyed.openBlock key.place.column key.count .blockTable).allowKey false).putMark
        .value 1)
  | _ => do
      some ((← scanner.entryMark? .blockTable .value).allowKey (!scanner.inFlow))

/-- A token that may start a key: what it is, and the text behind it. -/
def keyToken?
    (scanner : Scanner)
    (found : Option (Token × List Char)) : Option Scanner := do
  let ready ← scanner.rememberKey?
  let (token, behind) ← found
  some ((ready.allowKey false).putUntil token behind)

/-- A block of lines. -/
def blockToken? (scanner : Scanner) (folds : Bool) : Option Scanner := do
  let ready ← scanner.forgetKey?
  let (text, behind) ← block? folds ready.least (ready.rest.drop 1)
  some ((ready.allowKey true).putUntil (.scalar false (String.ofList text)) behind)

/-- A quoted scalar of a limited length, and the text behind it. -/
def quotedToken?
    (limit : Nat)
    (quote : Char)
    (text : List Char) : Option (Token × List Char) := do
  let (content, behind) ← quoted? quote limit text
  some (.scalar false (String.ofList content), behind)

/-- A plain scalar of a limited length. -/
def plainToken? (limit : Nat) (scanner : Scanner) : Option Scanner := do
  let ready ← scanner.rememberKey?
  let found ← plain? ready.inFlow ready.least limit [] ready.cursor
  let token := Token.scalar true (String.ofList found.text)
  some { (ready.put token).allowKey found.endsLine with cursor := found.behind }

/-- The scanner behind the token of a limited length that starts here. -/
def next? (limit : Nat) (scanner : Scanner) : Option Scanner :=
  let isFirst := scanner.cursor.column == 0
  match scanner.rest with
  | [] => none
  | character :: rest =>
      let standsApart := scanner.inFlow || atGap rest
      if isFirst && character == '%' then scanner.directiveToken?
      else if isFirst && atMarker scanner.rest then
        scanner.documentToken? (if character == '-' then .documentStart else .documentEnd)
      else
        match character with
        | '[' => scanner.openBracket? .listStart
        | '\x7b' => scanner.openBracket? .tableStart
        | ']' => scanner.closeBracket? .listEnd
        | '\x7d' => scanner.closeBracket? .tableEnd
        | ',' => scanner.comma?
        | '*' => scanner.keyToken? ((nodeName? rest).map fun found => (.alias found.1, found.2))
        | '&' => scanner.keyToken? ((nodeName? rest).map fun found => (.anchor found.1, found.2))
        | '!' =>
            scanner.keyToken? ((tag? scanner.inFlow rest).map fun found => (.tag found.1, found.2))
        | '\x27' => scanner.keyToken? (quotedToken? limit '\x27' rest)
        | '"' => scanner.keyToken? (quotedToken? limit '"' rest)
        | _ =>
            if character == '-' && atGap rest then scanner.itemMark?
            else if character == '?' && standsApart then scanner.keyMark?
            else if character == ':' && standsApart then scanner.valueMark?
            else if character == '|' && !scanner.inFlow then scanner.blockToken? false
            else if character == '>' && !scanner.inFlow then scanner.blockToken? true
            else if startsPlain scanner.inFlow scanner.rest then scanner.plainToken? limit
            else none

/-- The tokens of the text, which is shorter than a limit and of which each takes at least one
character. -/
def tokens? : Nat → Scanner → Option (List Token)
  | 0, _ => none
  | limit + 1, scanner => do
      let ready ← scanner.toToken?
      if ready.rest.isEmpty then some (← ready.outside?).tokens.reverse
      else tokens? limit (← ready.next? (limit + 1))

end Scanner

/-- The tokens of a text. -/
def Token.scan? (text : List Char) : Option (List Token) :=
  Scanner.tokens? (text.length + 1) (Scanner.start text)

end Yaml
end Document
end TableReach
