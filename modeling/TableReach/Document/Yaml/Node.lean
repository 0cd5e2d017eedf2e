import TableReach.Document.Yaml.Token

/-!
# Nodes of YAML

The nodes of a document are scalars, lists and tables, whose keys may be any nodes.  A
node that has a name may be repeated under it, even inside of itself, so that a tree of
nodes refers to named nodes by numbers.
-/

namespace TableReach
namespace Document
namespace Yaml

/-- A node. -/
inductive Node where
  /-- A scalar with its tag, if it has one. -/
  | scalar (tag : Option String) (isPlain : Bool) (text : String)
  /-- Nodes in order. -/
  | list (items : List Node)
  /-- Nodes by key. -/
  | table (entries : List (Node × Node))
  /-- The node with a number. -/
  | alias (number : Nat)
  /-- A node that is given a number. -/
  | named (number : Nat) (node : Node)
deriving Inhabited

namespace Node

/-- The scalar that stands where nothing is written. -/
def empty : Node := .scalar none true ""

/-- What remains of the tokens of a document, and the numbers of the names that are in use. -/
structure Progress where
  /-- The tokens. -/
  tokens : List Token
  /-- The numbers of the names, each name once. -/
  numbers : List (String × Nat)

/-- A reader of nodes. -/
abbrev Builder := StateT Progress Option

/-- The next token. -/
def peek : Builder (Option Token) := do
  return (← get).tokens.head?

/-- Go on behind the next token. -/
def skip : Builder Unit :=
  modify fun progress => { progress with tokens := progress.tokens.drop 1 }

/-- Give a name a number: how many names are in use.  A name that is used again stands for the
latest node of that name. -/
def register (name : String) : Builder Nat := do
  let progress ← get
  let number := progress.numbers.length
  let others := progress.numbers.filter fun entry => entry.1 != name
  set { progress with numbers := (name, number) :: others }
  return number

/-- What handles stand for. -/
abbrev Handles := List (String × String)

/-- The whole tag. -/
def wholeTag? (handles : Handles) (tag : Tag) : Option String :=
  if tag.handle.isEmpty then some tag.suffix
  else (handles.lookup tag.handle).map (· ++ tag.suffix)

/-- The name of the next node, if it is given here. -/
def anchor : Builder (Option String) := do
  match ← peek with
  | some (.anchor name) =>
      skip
      return some name
  | _ => return none

/-- The tag of the next node, if it is given here. -/
def tag (handles : Handles) : Builder (Option String) := do
  match ← peek with
  | some (.tag content) =>
      skip
      return some (← (wholeTag? handles content : Option String))
  | _ => return none

/-- The name and the tag of the next node, in either order. -/
def properties (handles : Handles) : Builder (Option String × Option String) := do
  let first ← anchor
  let tag ← tag handles
  let name ← if first.isNone && tag.isSome then anchor else pure first
  return (name, tag)

/-- A scalar.  The tag that is only a mark is none. -/
def ofScalar (tag : Option String) (isPlain : Bool) (text : String) : Node :=
  .scalar (if tag == some "!" then none else tag) isPlain text

/-- A token before which nothing is written, in a list of which each item has a line of its own. -/
def endsItem : Token → Bool
  | .item => true
  | .blockEnd => true
  | _ => false

/-- A token before which nothing is written, in a table of which each entry has a line of its
own. -/
def endsEntry : Token → Bool
  | .key => true
  | .value => true
  | .blockEnd => true
  | _ => false

/-- A token before which nothing is written between the brackets of a list. -/
def endsMember : Token → Bool
  | .comma => true
  | .listEnd => true
  | _ => false

/-- A token before which nothing is written between the brackets of a table. -/
def endsPair : Token → Bool
  | .comma => true
  | .tableEnd => true
  | _ => false

/-- A token before which no key is written between brackets, where others end what is written. -/
def endsKey (ends : Token → Bool) : Token → Bool
  | .value => true
  | token => ends token

/-- The next token is a comma, which is skipped, unless it is the first one between brackets. -/
def commaUnless (isFirst : Bool) : Builder Unit := do
  if !isFirst then
    match ← peek with
    | some .comma => skip
    | _ => failure

mutual

/-- A node.  Lists and tables without brackets stand only in blocks, and only as keys and values
stand lists that are not set off by their column. -/
def node (handles : Handles) : Nat → Bool → Bool → Builder Node
  | 0, _, _ => failure
  | limit + 1, inBlock, mayBeLevel => do
      match ← peek with
      | some (.alias name) =>
          skip
          return .alias (← ((← get).numbers.lookup name : Option Nat))
      | _ =>
          let (name, tag) ← properties handles
          let number ← name.mapM register
          let content ← contents handles limit inBlock mayBeLevel (name.isSome || tag.isSome) tag
          return (number.map fun found => named found content).getD content

/-- What a node holds behind its name and tag.  It may hold nothing if it has a name or tag. -/
def contents (handles : Handles) : Nat → Bool → Bool → Bool → Option String → Builder Node
  | 0, _, _, _, _ => failure
  | limit + 1, inBlock, mayBeLevel, mayBeEmpty, tag => do
      match ← peek with
      | some (.scalar isPlain text) =>
          skip
          return ofScalar tag isPlain text
      | some .listStart =>
          skip
          return .list (← members handles limit true)
      | some .tableStart =>
          skip
          return .table (← pairs handles limit true)
      | some token =>
          match token, inBlock, mayBeLevel with
          | .item, _, true => return .list (← levelItems handles limit)
          | .blockList, true, _ =>
              skip
              return .list (← items handles limit)
          | .blockTable, true, _ =>
              skip
              return .table (← entries handles limit)
          | _, _, _ => if mayBeEmpty then return .scalar tag true "" else failure
      | none => if mayBeEmpty then return .scalar tag true "" else failure

/-- A node, or nothing before a token that ends it. -/
def nodeUnless (handles : Handles) (ends : Token → Bool) : Nat → Bool → Bool → Builder Node
  | 0, _, _ => failure
  | limit + 1, inBlock, mayBeLevel => do
      if (← peek).any ends then return empty else node handles limit inBlock mayBeLevel

/-- The items of a list up to its end. -/
def items (handles : Handles) : Nat → Builder (List Node)
  | 0 => failure
  | limit + 1 => do
      match ← peek with
      | some .item =>
          skip
          let first ← nodeUnless handles endsItem limit true false
          return first :: (← items handles limit)
      | some .blockEnd =>
          skip
          return []
      | _ => failure

/-- The items of a list at the column of the table that it belongs to. -/
def levelItems (handles : Handles) : Nat → Builder (List Node)
  | 0 => failure
  | limit + 1 => do
      match ← peek with
      | some .item =>
          skip
          let ends (token : Token) : Bool := endsItem token || endsEntry token
          let first ← nodeUnless handles ends limit true false
          return first :: (← levelItems handles limit)
      | _ => return []

/-- The value of an entry, or nothing if none is given. -/
def entryValue
    (handles : Handles)
    (ends : Token → Bool) : Nat → Bool → Builder Node
  | 0, _ => failure
  | limit + 1, inBlock => do
      match ← peek with
      | some .value =>
          skip
          nodeUnless handles ends limit inBlock inBlock
      | _ => return empty

/-- The entries of a table up to its end. -/
def entries (handles : Handles) : Nat → Builder (List (Node × Node))
  | 0 => failure
  | limit + 1 => do
      match ← peek with
      | some .key =>
          skip
          let key ← nodeUnless handles endsEntry limit true true
          let value ← entryValue handles endsEntry limit true
          return (key, value) :: (← entries handles limit)
      | some .blockEnd =>
          skip
          return []
      | _ => failure

/-- The members of a list between brackets, of which the first has no comma before it.  A member
may be an entry, which is a table of its own. -/
def members (handles : Handles) : Nat → Bool → Builder (List Node)
  | 0, _ => failure
  | limit + 1, isFirst => do
      match ← peek with
      | some .listEnd =>
          skip
          return []
      | _ =>
          commaUnless isFirst
          match ← peek with
          | some .listEnd =>
              skip
              return []
          | some .key =>
              skip
              let isMissing := (← peek).any (endsKey endsMember)
              let key ←
                if isMissing then
                  skip
                  pure empty
                else node handles limit false false
              let value ← entryValue handles endsMember limit false
              return .table [(key, value)] :: (← members handles limit false)
          | _ =>
              let first ← node handles limit false false
              return first :: (← members handles limit false)

/-- The entries of a table between brackets, of which the first has no comma before it. -/
def pairs (handles : Handles) : Nat → Bool → Builder (List (Node × Node))
  | 0, _ => failure
  | limit + 1, isFirst => do
      match ← peek with
      | some .tableEnd =>
          skip
          return []
      | _ =>
          commaUnless isFirst
          match ← peek with
          | some .tableEnd =>
              skip
              return []
          | some .key =>
              skip
              let key ← nodeUnless handles (endsKey endsPair) limit false false
              let value ← entryValue handles endsPair limit false
              return (key, value) :: (← pairs handles limit false)
          | _ =>
              let key ← node handles limit false false
              return (key, empty) :: (← pairs handles limit false)

end

/-- The directives before a document. -/
def directives : List Token → List Directive
  | .directive content :: others => content :: directives others
  | _ => []

/-- What handles stand for if nothing else is said. -/
def commonHandles : Handles :=
  [("!", "!"), ("!!", "tag:yaml.org,2002:")]

/-- What the handles of a document stand for.  Each is given once, and the version is one of two
and given at most once. -/
def handles? (directives : List Directive) : Option Handles := do
  let given := directives.filterMap fun directive =>
    match directive with
    | .handle name start => some (name, start)
    | .version _ _ => none
  let versions := directives.filterMap fun directive =>
    match directive with
    | .version major minor => some (major, minor)
    | .handle _ _ => none
  let isVersioned := versions.length ≤ 1 && versions.all fun found =>
    found == (1, 1) || found == (1, 2)
  if isVersioned && (given.map Prod.fst).Nodup then some (given ++ commonHandles) else none

/-- The node of a document whose start is marked or not, and the tokens behind it. -/
def document? (handles : Handles) (isMarked : Bool) (tokens : List Token) :
    Option (Node × List Token) := do
  let isEmpty :=
    match tokens.head? with
    | none => true
    | some (.directive _) => true
    | some .documentStart => true
    | some .documentEnd => true
    | some _ => false
  if isMarked && isEmpty then some (empty, tokens)
  else
    let reader := node handles (6 * (tokens.length + 1)) true false
    let (found, progress) ← reader.run { tokens := tokens, numbers := [] }
    some (found, progress.tokens)

/-- The node of tokens, which hold at most one document. -/
def ofTokens? (tokens : List Token) : Option Node := do
  let given := directives tokens
  let handles ← handles? given
  let (found, behind) ←
    match tokens.drop given.length with
    | .documentStart :: others => document? handles true others
    | others =>
        if !given.isEmpty then none
        else if others.isEmpty then some (empty, [])
        else document? handles false others
  let isEnd : Token → Bool
    | .documentEnd => true
    | _ => false
  if behind.all isEnd then some found else none

end Node
end Yaml
end Document
end TableReach
