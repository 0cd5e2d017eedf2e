import TableReach.Proofs.Classification.NamedQueries
import TableReach.Proofs.Sql.Grammar.Statement
import TableReach.Proofs.Sql.Lexer.Continuation
import TableReach.Proofs.Sql.LoneWord
import TableReach.Proofs.Template.Prepared

/-!
# The first statement of a text

A text is classified by its first statement.  What stands behind the semicolon is read,
but it cannot change what the first statement is, unless this ends inside of a part that
takes whatever comes next.  The keywords of the text are another matter: they are searched
in the whole text, so a first statement without a table of its own is found to read the
tables of the statements behind it.
-/

namespace TableReach
namespace Sql
namespace Grammar

open Lexer

/-- The lexemes of a text end inside of a part that takes what comes next, whatever it is. -/
def endsOpen (dialect : Dialect) (text : List Char) : Bool :=
  (lexemes? dialect text).any fun lexemes => endsInSign dialect lexemes || !isClosed lexemes

/-- Where statements are read, the text has lexemes. -/
theorem exists_of_statements?
    {dialect : Dialect}
    {text : List Char}
    {found : List Statement}
    (parsed : statements? dialect text = some found) :
    ∃ lexemes left, lexemes? dialect text = some lexemes ∧
      statementsFrom lexemes.length ⟨dialect, .ordinary⟩ lexemes = .ok (found, left) := by
  unfold statements? at parsed
  split at parsed
  · exact nomatch parsed
  · next lexemes isLexemes =>
      split at parsed
      · next all left read =>
          obtain rfl := Option.some_inj.mp parsed
          exact ⟨lexemes, left, isLexemes, read⟩
      · exact nomatch parsed

/-- A semicolon and more behind a text leave its first statement as it is. -/
theorem head?_of_statements?_semicolon
    {dialect : Dialect}
    {word more after : List Char}
    {first : Statement}
    {others all : List Statement}
    (known : word.map Char.toUpper ∈ Template.openingKeywords)
    (oneLine : '\n' ∉ after)
    (closed : endsOpen dialect (word ++ ' ' :: more) = false)
    (parsed : statements? dialect (word ++ ' ' :: more) = some (first :: others))
    (parsedAll : statements? dialect (word ++ ' ' :: more ++ ';' :: after) = some all) :
    all.head? = some first := by
  obtain ⟨lexemes, left, isLexemes, read⟩ := exists_of_statements? parsed
  obtain ⟨allLexemes, allLeft, isAllLexemes, readAll⟩ := exists_of_statements? parsedAll
  rw [endsOpen, isLexemes, Option.any_some, Bool.or_eq_false_iff, Bool.not_eq_false'] at closed
  rcases lexemes?_semicolon oneLine isLexemes isAllLexemes closed.1 with
    rfl | ⟨spaced, behind, rfl⟩
  · rw [read] at readAll
    obtain ⟨rfl, _⟩ := Prod.mk.inj (Except.ok.inj readAll)
    rfl
  · obtain ⟨rest, rfl⟩ : ∃ rest, lexemes = keywordLexeme word :: rest := by
      have ends : ∀ next ∈ (' ' :: more).head?, dialect.continuesName next = false := by
        rintro _ ⟨⟩
        exact Dialect.continuesName_of_divides dialect.divides_space
      obtain ⟨limit, equal⟩ := lexemes?_of_keyword_append dialect known ends nofun
      rw [equal] at isLexemes
      obtain ⟨rest, _, rfl⟩ := Option.map_eq_some_iff.mp isLexemes
      exact ⟨rest, rfl⟩
    have isData : (keywordLexeme word).keyword ∈ dataKeywords := by
      change String.ofList (word.map Char.toUpper) ∈ dataKeywords
      generalize word.map Char.toUpper = keyword at known
      revert keyword
      decide
    have noSemicolon : (keywordLexeme word).token ≠ .symbol ";" := nofun
    obtain ⟨head, _, isHead, same⟩ := statement_of_statementsFrom noSemicolon read
    obtain ⟨allHead, _, isAllHead, sameAll⟩ := statement_of_statementsFrom noSemicolon readAll
    have extended := statement_append (levels depthLimit) ⟨dialect, .ordinary⟩ spaced behind isData
      closed.2
    rw [isHead, leaving_ok] at extended
    obtain ⟨rfl, _⟩ := Prod.mk.inj (Except.ok.inj (isAllHead.symm.trans extended))
    rw [sameAll, ← same]
    rfl

/-- A statement behind another one that is prepared as it stands leaves that one the first. -/
theorem exists_of_statements?_of_prepare
    {dialect : Dialect}
    {text further : List Char}
    {first : Statement}
    {others all : List Statement}
    (kept : (Template.prepare text).sql = text)
    (accepted : (Template.prepare text).isStandIn = false)
    (keptWhole : (Template.prepare (text ++ ';' :: further)).sql = text ++ ';' :: further)
    (acceptedWhole : (Template.prepare (text ++ ';' :: further)).isStandIn = false)
    (closed : endsOpen dialect text = false)
    (parsed : statements? dialect text = some (first :: others))
    (parsedWhole : statements? dialect (text ++ ';' :: further) = some all) :
    ∃ later, all = first :: later := by
  obtain ⟨collapsed, shaped⟩ := Template.isCollapsed_of_prepare accepted
  rw [kept] at collapsed shaped
  obtain ⟨word, more, rfl, known⟩ := Template.exists_keyword_of_hasStatementShape collapsed shaped
  have oneLine : '\n' ∉ further := by
    intro present
    obtain ⟨source, equal⟩ := (Template.isCollapsed_of_prepare acceptedWhole).1
    rw [keptWhole] at equal
    have inside : '\n' ∈ Text.collapse source :=
      equal ▸ List.mem_append_right _ (List.mem_cons_of_mem _ present)
    exact nomatch Text.eq_space_of_mem_collapse inside rfl
  exact List.head?_eq_some_iff.mp
    (head?_of_statements?_semicolon known oneLine closed parsed parsedWhole)

end Grammar

/-- The statement is a query that changes no rows and names no table beside the names it binds. -/
def Statement.namesNoTable : Statement → Bool
  | .query read => !read.changesRows && read.ownTables.isEmpty
  | _ => false

end Sql

namespace Classification

open Sql

/-- The text of a statement that names a table does not matter. -/
theorem value_ofStatement_of_text
    (sql other : List Char)
    {statement : Statement}
    (named : statement.namesNoTable = false) :
    (ofStatement other statement).value = (ofStatement sql statement).value := by
  cases statement with
  | query query =>
      cases changes : query.changesRows with
      | true =>
          obtain ⟨definitions, body, trailing, steps⟩ := query
          cases body with
          | change inner =>
              exact congrArg (withDefinitions (.mk definitions (.change inner) trailing steps))
                (value_ofChange other sql inner)
          | _ => exact nomatch changes
      | false =>
          have own : query.ownTables ≠ [] := by
            simpa [Statement.namesNoTable, changes] using named
          rw [ofStatement_of_reading other changes, ofStatement_of_reading sql changes,
            value_ofQuery_of_ownTables other own, value_ofQuery_of_ownTables sql own]
  | _ => exact value_ofChange other sql _

/-- A statement that names no table is classified by the keywords of its text. -/
theorem value_ofStatement_of_namesNoTable
    (sql : List Char)
    {statement : Statement}
    (unnamed : statement.namesNoTable = true) :
    (ofStatement sql statement).value =
      { operation := .select, targets := [], references := Keyword.selectTables sql,
        stage := if (Keyword.selectTables sql).isEmpty then .structured else .keywordSearch } := by
  cases statement with
  | query query =>
      rw [Statement.namesNoTable, Bool.and_eq_true, Bool.not_eq_true', List.isEmpty_iff] at unnamed
      rw [ofStatement_of_reading sql unnamed.1, value_ofQuery_of_no_ownTables sql unnamed.2]
  | _ => exact nomatch unnamed

end Classification

namespace Classifier

open Sql.Grammar (statements? endsOpen)

/-- Of a text that is prepared as it stands, the first statement alone decides what it does and
what it writes.  It also decides what it reads, unless it names no table: then the tables behind
the keywords of all statements are found, and the classification is that of the first statement
only if these are the tables behind its own keywords.  Whatever was classified before makes no
difference.  Nothing is said about a first statement that ends open. -/
theorem first_statement_decides
    (dialect : Sql.Dialect)
    (capacity capacityWhole : Nat)
    (history historyWhole : List (Eviction × String))
    (evict evictWhole : Eviction)
    (text further : String)
    {first : Sql.Statement}
    {others all : List Sql.Statement}
    (kept : (Template.prepare text.toList).sql = text.toList)
    (accepted : (Template.prepare text.toList).isStandIn = false)
    (keptWhole : (Template.prepare (text ++ "; " ++ further).toList).sql =
      (text ++ "; " ++ further).toList)
    (acceptedWhole : (Template.prepare (text ++ "; " ++ further).toList).isStandIn = false)
    (parsed : statements? dialect text.toList = some (first :: others))
    (parsedWhole : statements? dialect (text ++ "; " ++ further).toList = some all)
    (closed : endsOpen dialect text.toList = false) :
    let alone :=
      (((fresh dialect capacity).afterTexts history).classifyText evict text).value.1
    let whole :=
      (((fresh dialect capacityWhole).afterTexts historyWhole).classifyText evictWhole
        (text ++ "; " ++ further)).value.1
    whole.operation = alone.operation ∧ whole.targets = alone.targets ∧
      (whole = alone ↔
        (first.namesNoTable = true →
          Keyword.selectTables (text ++ "; " ++ further).toList =
            Keyword.selectTables text.toList)) := by
  intro alone whole
  have joined : (text ++ "; " ++ further).toList = text.toList ++ ';' :: ' ' :: further.toList := by
    simp [String.toList_append]
  rw [joined] at keptWhole acceptedWhole parsedWhole
  obtain ⟨later, rfl⟩ := Sql.Grammar.exists_of_statements?_of_prepare kept accepted keptWhole
    acceptedWhole closed parsed parsedWhole
  have isAlone : alone = (Classification.ofStatement text.toList first).value := by
    rw [← kept] at parsed
    change (((fresh dialect capacity).afterTexts history).classifyText evict text).value.1 = _
    rw [classifyText_afterTexts, Classification.ofRaw_of_statements accepted parsed, kept]
  have isWhole : whole =
      (Classification.ofStatement (text.toList ++ ';' :: ' ' :: further.toList) first).value := by
    rw [← joined] at keptWhole acceptedWhole parsedWhole
    rw [← keptWhole] at parsedWhole
    change (((fresh dialect capacityWhole).afterTexts historyWhole).classifyText evictWhole
      (text ++ "; " ++ further)).value.1 = _
    rw [classifyText_afterTexts, Classification.ofRaw_of_statements acceptedWhole parsedWhole,
      keptWhole, joined]
  rw [isAlone, isWhole, joined]
  cases unnamed : first.namesNoTable with
  | true =>
      rw [Classification.value_ofStatement_of_namesNoTable _ unnamed,
        Classification.value_ofStatement_of_namesNoTable _ unnamed]
      refine ⟨rfl, rfl, fun same _ => congrArg Classification.references same, fun same => ?_⟩
      rw [same rfl]
  | false =>
      rw [Classification.value_ofStatement_of_text text.toList _ unnamed]
      exact ⟨rfl, rfl, fun _ => nofun, fun _ => rfl⟩

set_option maxRecDepth 100000 in
/-- A query behind a deletion adds nothing to what the deletion is classified as. -/
theorem deletion_decides_before_query :
    (((fresh .generic usualCapacity).afterTexts []).classifyText .oldest
        ("DELETE FROM a" ++ "; " ++ "SELECT x FROM b")).value.1 =
      (((fresh .generic usualCapacity).afterTexts []).classifyText .oldest
        "DELETE FROM a").value.1 := by
  have checked :
      ((statements? .generic "DELETE FROM a".toList).bind List.head?).any
        (fun first => !first.namesNoTable) = true := by
    decide +kernel
  have parsedWhole :
      (statements? .generic ("DELETE FROM a" ++ "; " ++ "SELECT x FROM b").toList).isSome = true := by
    decide +kernel
  obtain ⟨all, parsedWhole⟩ := Option.isSome_iff_exists.mp parsedWhole
  obtain ⟨first, found, named⟩ := (Option.any_eq_true _ _).mp checked
  obtain ⟨statements, parsed, isFirst⟩ := Option.bind_eq_some_iff.mp found
  obtain ⟨others, rfl⟩ := List.head?_eq_some_iff.mp isFirst
  have decided := first_statement_decides .generic usualCapacity usualCapacity [] [] .oldest
    .oldest "DELETE FROM a" "SELECT x FROM b" (by decide +kernel) (by decide +kernel)
    (by decide +kernel) (by decide +kernel) parsed parsedWhole (by decide +kernel)
  refine decided.2.2.mpr fun unnamed => ?_
  rw [unnamed] at named
  cases named

set_option maxRecDepth 100000 in
/-- A first query without tables is found to read the table of the deletion behind it, and one that
ends with the name of a table behind its keyword goes on behind the semicolon. -/
theorem further_statement_read_by_first :
    (Classification.ofRaw .generic "SELECT 1").references = [] ∧
      (Classification.ofRaw .generic "SELECT 1; DELETE FROM b").references = ["b"] ∧
      (Classification.ofRaw .generic "WITH c AS (SELECT a FROM u) TABLE foo").references = ["u"] ∧
      (Classification.ofRaw .generic
        "WITH c AS (SELECT a FROM u) TABLE foo; x UNION SELECT a FROM t").references =
          ["u", "t"] := by
  decide +kernel

end Classifier
end TableReach
