import TableReach.Sql.Lexer
import TableReach.Sql.Grammar.Alteration
import TableReach.Sql.Grammar.Removal
import TableReach.Sql.Grammar.Privilege
import TableReach.Sql.Grammar.Session
import TableReach.Sql.Grammar.Copying
import TableReach.Sql.Grammar.Upkeep

/-!
# Statements

The readers of all kinds of statements tied together, and the reader of a whole text:
`statements?` gives the statements of a text if all of it can be read.
-/

namespace TableReach
namespace Sql
namespace Grammar

/-- A statement about transactions, cursors or the session, behind its keyword; tells whether the
keyword is that of one. -/
def sessionStatement (levels : Levels) (keyword : String) : Reader Bool := do
  match keyword with
  | "START" =>
      expectWord "TRANSACTION"
      transactionModes
  | "BEGIN" => transactionStart
  | "COMMIT" | "END" => transactionEnd
  | "ROLLBACK" => rollback
  | "SAVEPOINT" | "OPEN" => let _ ← ident
  | "RELEASE" =>
      let _ ← acceptWord "SAVEPOINT"
      let _ ← ident
  | "SET" => sessionSetting levels
  | "RESET" => if !(← acceptWord "ALL") then let _ ← objectName
  | "SHOW" => showing levels
  | "USE" => let _ ← objectName
  | "DECLARE" => newCursor levels
  | "FETCH" => fetching
  | "CLOSE" => if !(← acceptWord "ALL") then let _ ← ident
  | "PREPARE" => preparation levels
  | "EXECUTE" | "EXEC" => execution levels
  | "DEALLOCATE" =>
      let _ ← acceptWord "PREPARE"
      let _ ← ident
  | "DISCARD" =>
      let _ ← expectAnyWord ["ALL", "PLANS", "SEQUENCES", "TEMP", "TEMPORARY"]
  | "PRAGMA" => pragma
  | _ => return false
  return true

/-- A statement that only some dialects know, behind its keyword; tells whether the keyword is that
of one. -/
def dialectStatement (levels : Levels) (keyword : String) : Reader Bool := do
  match keyword with
  | "LISTEN" =>
      require (← dialectIn [.postgresql])
      let _ ← ident
  | "UNLISTEN" =>
      require (← dialectIn [.postgresql])
      if !(← acceptSymbol "*") then let _ ← ident
  | "NOTIFY" =>
      require (← dialectIn [.postgresql])
      notification
  | "LOCK" =>
      require (← dialectIn [.mysql])
      expectWord "TABLES"
      let _ ← commaSeparated tableLock
  | "UNLOCK" =>
      require (← dialectIn [.mysql])
      expectWord "TABLES"
  | "INSTALL" =>
      require (← dialectIn [.generic])
      let _ ← ident
  | "LOAD" =>
      require (← dialectIn [.generic, .postgresql])
      let _ ← ident
  | "DETACH" => detaching
  | "OPTIMIZE" => optimizing levels
  | "COMMENT" => commenting
  | "FLUSH" => flushing
  | _ => return false
  return true

/-- A statement that runs others or stops a run, behind its keyword; tells whether the keyword is
that of one. -/
def controlStatement (levels : Levels) (keyword : String) : Reader Bool := do
  match keyword with
  | "CASE" => caseStatement levels
  | "IF" => ifStatement levels
  | "WHILE" => whileStatement levels
  | "RAISE" => raiseStatement levels
  | "RAISERROR" => raisedError levels
  | "CALL" =>
      let _ ← objectName
      if ← comesSymbol "(" then let _ ← call levels
  | "RETURN" => let _ ← attempt levels.expression
  | "PRINT" => let _ ← levels.expression
  | "ASSERT" =>
      let _ ← levels.expression
      expressionAfter levels "AS"
  | _ => return false
  return true

/-- A statement about the definitions of objects, behind its keyword; tells whether the keyword is
that of one. -/
def definitionStatement (levels : Levels) (keyword : String) : Reader Bool := do
  match keyword with
  | "CREATE" => creation levels
  | "ALTER" => alteration levels
  | "DROP" => removal levels
  | "TRUNCATE" => truncation levels
  | "RENAME" =>
      expectWord "TABLE"
      let _ ← commaSeparated do
        let _ ← objectName
        expectWord "TO"
        objectName
  | "GRANT" => granting levels
  | "DENY" => denying levels
  | "REVOKE" => revoking levels
  | _ => return false
  return true

/-- A statement about files and the upkeep of a database, behind its keyword; tells whether the
keyword is that of one. -/
def upkeepStatement (levels : Levels) (keyword : String) : Reader Bool := do
  match keyword with
  | "KILL" => killing
  | "EXPLAIN" | "DESCRIBE" | "DESC" => explanation levels keyword
  | "ANALYZE" => analysis levels
  | "CACHE" => caching levels
  | "UNCACHE" => uncaching
  | "MSCK" => repairing
  | "ATTACH" => attaching levels
  | "VACUUM" => vacuuming
  | "COPY" => copying levels
  | "UNLOAD" => unloading levels
  | "EXPORT" => exporting levels
  | _ => return false
  return true

/-- A statement that touches no rows, behind its keyword. -/
def otherStatement (levels : Levels) (keyword : String) : Reader Statement := do
  if ← sessionStatement levels keyword then return .other
  if ← dialectStatement levels keyword then return .other
  if ← controlStatement levels keyword then return .other
  if ← definitionStatement levels keyword then return .other
  require (← upkeepStatement levels keyword)
  return .other

/-- A statement that is no query, behind its keyword. -/
def statementBehind (levels : Levels) (keyword : String) : Reader Statement := do
  match keyword with
  | "INSERT" => insertion levels
  | "REPLACE" =>
      require !(← dialectIn [.postgresql])
      insertion levels
  | "UPDATE" => updating levels
  | "DELETE" => deletion levels
  | "MERGE" => merging levels
  | keyword => otherStatement levels keyword

/-- A statement. -/
def statement (levels : Levels) : Reader Statement := do
  if ["SELECT", "WITH", "VALUES", "FROM"].contains (← nextKeyword) then
    return .query (← levels.query)
  if ← comesSymbol "(" then return .query (← levels.query)
  statementBehind levels (← next).keyword

/-- The readers that nest at most this deep. -/
def levels : Nat → Levels
  | 0 => Levels.ground
  | depth + 1 =>
      let lower := levels depth
      { expressionAbove := expressionAbove lower
        operand := operand lower
        column := newColumn lower
        query := query lower
        item := item lower
        statement := statement lower }

/-- How deep the parts of a statement can be nested. -/
def depthLimit : Nat := 49

/-- Whether no further statement follows: the lexemes end, or the word `END` comes next. -/
def endsStatements : Reader Bool := do
  if (← remaining) == 0 then return true
  else if ← comesSymbol ";" then return false
  else
    expectWord "END"
    return true

/-- Statements with semicolons between them, at most `count` of them; a word `END` behind a
statement ends them too. -/
def statementsFrom : Nat → Reader (List Statement)
  | 0 => return []
  | count + 1 => do
      let _ ← many do
        if ← acceptSymbol ";" then return some () else return none
      if (← remaining) == 0 then return []
      let first ← statement (levels depthLimit)
      if ← endsStatements then return [first]
      return first :: (← statementsFrom count)

/-- The statements of a text. -/
def statements? (dialect : Dialect) (text : List Char) : Option (List Statement) :=
  match lexemes? dialect text with
  | none => none
  | some lexemes =>
      match (statementsFrom lexemes.length).run ⟨dialect, .ordinary⟩ |>.run lexemes with
      | .ok (found, _) => some found
      | .error _ => none

end Grammar
end Sql
end TableReach
