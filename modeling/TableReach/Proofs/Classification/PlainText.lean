import TableReach.Proofs.Classification.Coherence
import TableReach.Proofs.Classification.KeywordSpacing
import TableReach.Proofs.Sql.LoneWord
import TableReach.Proofs.Template.Plain
import TableReach.Proofs.Template.Shape

/-!
# Classification of plain statements

Preparing a statement without markup does not change what it is classified as, where
putting it on one line keeps its tokens and it looks neither in need of repair nor
unfinished: the statement is classified as its own first statement is.
-/

namespace TableReach

open Text

namespace Classification

/-- What the first statement of a text is classified as, where the text can be read as it stands. -/
def ofFirst? (dialect : Sql.Dialect) (raw : List Char) : Option Classification :=
  ((Sql.Grammar.statements? dialect raw).bind List.head?).map fun first =>
    (ofStatement raw first).value

/-- What a change is classified as does not depend on how its text is written. -/
theorem value_ofChange
    (sql other : List Char)
    (statement : Sql.Statement) :
    (ofChange sql statement).value = (ofChange other statement).value := by
  unfold ofChange
  split
  · rfl
  · split <;> rfl
  · rfl
  · rfl

/-- What a statement is classified as does not change on one line. -/
theorem value_ofStatement_collapse
    (sql : List Char)
    (statement : Sql.Statement) :
    (ofStatement (collapse sql) statement).value = (ofStatement sql statement).value := by
  unfold ofStatement
  split
  · next definitions inner trailing steps =>
      simp only [Logged.value_bind, Logged.value_pure, value_ofChange (collapse sql) sql]
  · next query _ =>
      rw [ofQuery, ofQuery, Keyword.selectTables_collapse]
  · exact value_ofChange _ _ _

end Classification

namespace Template

/-- A plain statement that needs no repair and looks finished is prepared by putting it on one
line. -/
theorem prepare_of_isUnmarked
    {text : List Char}
    (unmarked : isUnmarked text = true)
    (unrepaired : ∀ rule ∈ RepairRule.all, rule.mend? (collapse text) = none)
    (shaped : hasStatementShape (collapse text) = true) :
    prepare text =
      { sql := collapse text, isStandIn := false, placeholders := 0, tags := 0,
        repairs := [] } := by
  simp only [prepare, normalize_of_isUnmarked unmarked, repair_eq_self unrepaired, shaped, if_true,
    Bool.not_true]

end Template

theorem Sql.Grammar.statements?_collapse
    {dialect : Sql.Dialect}
    {text : List Char}
    (keeps : Sql.Lexer.keepsTokens dialect text = true)
    (noAmpersand : '&' ∉ text) :
    statements? dialect (collapse text) = statements? dialect text := by
  rw [statements?, statements?, Sql.lexemes?_collapse keeps noAmpersand]

namespace Classifier

/-- A plain statement is classified as the first statement that is read in it. -/
theorem classifyText_of_isPlain
    {classifier : Classifier}
    {raw : String}
    {direct : Classification}
    (coherent : classifier.Coherent)
    (evict : Eviction)
    (plain : Template.isPlain raw.toList = true)
    (noLongTag : contains raw.toList "<ſ".toList = false)
    (opens : Template.opensStatement raw.toList = true)
    (read : Classification.ofFirst? classifier.dialect raw.toList = some direct)
    (keeps : Sql.Lexer.keepsTokens classifier.dialect raw.toList = true)
    (unrepaired : ∀ rule ∈ Template.RepairRule.all, rule.mend? (collapse raw.toList) = none)
    (finished : Template.looksUnfinished (collapse raw.toList) = false) :
    (classifier.classifyText evict raw).value.1 = direct := by
  have unmarked : Template.isUnmarked raw.toList = true := by
    rw [Template.isUnmarked, plain, noLongTag]
    rfl
  have noAmpersand := (Template.isUnmarked_iff.mp unmarked).1
  obtain ⟨word, laterWords, found, known⟩ := Template.exists_word_of_opensStatement opens
  have onLine := Sql.Grammar.statements?_collapse keeps noAmpersand
  obtain ⟨first, isFirst, rfl⟩ := Option.map_eq_some_iff.mp read
  obtain ⟨statements, parsed, isHead⟩ := Option.bind_eq_some_iff.mp isFirst
  obtain ⟨others, rfl⟩ := List.head?_eq_some_iff.mp isHead
  have more : collapse raw.toList ≠ word := by
    intro alone
    rw [parsed, alone, Sql.Grammar.statements?_of_keyword _ known] at onLine
    cases onLine
  have prepared := Template.prepare_of_isUnmarked unmarked unrepaired
    (Template.hasStatementShape_collapse found known more finished)
  have written : allBlank raw.toList = false :=
    allBlank_eq_false_of_words (by rw [found]; exact List.cons_ne_nil _ _)
  rw [coherent.classifyText_fst, Classification.ofRaw, written, Classification.ofText, prepared,
    ← Classification.value_ofStatement_collapse]
  simp only [onLine, parsed]
  rfl

set_option maxRecDepth 100000 in
/-- A query over several lines, with comments. -/
theorem classifyText_query_with_comments :
    ((fresh .generic usualCapacity).classifyText .oldest
      "SELECT a.x /* one\n */ FROM a,\n  b -- both").value.1 =
      { operation := .select, targets := [], references := ["a", "b"], stage := .structured } :=
  classifyText_of_isPlain (Coherent.fresh .generic usualCapacity) .oldest (by decide +kernel)
    (by decide +kernel) (by decide +kernel) (by decide +kernel) (by decide +kernel)
    (by decide +kernel) (by decide +kernel)

/-- The tables that a plain statement reads and those that its text is classified as reading. -/
def readAndFound (raw : String) : Option (List String × List String) :=
  if Template.isPlain raw.toList && Template.opensStatement raw.toList then
    (Classification.ofFirst? .generic raw.toList).map fun direct =>
      (direct.references,
        ((fresh .generic usualCapacity).classifyText .oldest raw).value.1.references)
  else none

set_option maxRecDepth 100000 in
/-- Preparing a plain statement can change the tables found in it: blanks in a quoted name, a line
comment, a comparison that looks like a clause without its `WHERE`, a column whose name ends in a
keyword, a name that looks like a tag. -/
theorem readAndFound_differ :
    readAndFound "SELECT * FROM \"a  b\"" = some (["a  b"], ["a b"]) ∧
      readAndFound "DELETE FROM t --\nWHERE a IN (SELECT b FROM u)" = some (["u"], []) ∧
      readAndFound "SELECT * FROM t WHERE a IS DISTINCT FROM b AND c" =
        some (["t"], ["t", "b"]) ∧
      readAndFound "SELECT x_from FROM a, b" = some (["a", "b"], ["a"]) ∧
      readAndFound "SELECT * FROM a, b WHERE x <ſet> y" = some (["a", "b"], ["a"]) := by
  decide +kernel

end Classifier
end TableReach
