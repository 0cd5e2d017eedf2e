import TableReach.Main
import TableReach.Proofs.CallGraph.Walks
import TableReach.Proofs.CallGraph.Exactness
import TableReach.Proofs.Classification.Coherence
import TableReach.Proofs.Run.Preparation
import TableReach.Proofs.Run.Schedule
import TableReach.Proofs.Matching
import TableReach.Proofs.Run.Links
import TableReach.Proofs.Sql.Spacing
import TableReach.Proofs.Sql.Lexer.Unquoted
import TableReach.Proofs.Sql.Lexer.Quoted
import TableReach.Proofs.Sql.Lexer.Tokens
import TableReach.Proofs.Sql.Lexer.Lexemes
import TableReach.Proofs.Sql.Lexer.OneLine
import TableReach.Proofs.Template.Plain
import TableReach.Proofs.Sql.LoneWord
import TableReach.Proofs.Template.Shape
import TableReach.Proofs.Classification.KeywordSpacing
import TableReach.Proofs.Classification.PlainText
import TableReach.Proofs.Classification.Shape
import TableReach.Proofs.Classification.NamedQueries
import TableReach.Proofs.Sql.Lexer.Semicolon
import TableReach.Proofs.Sql.Lexer.Continuation
import TableReach.Proofs.Sql.Grammar.Statement
import TableReach.Proofs.Template.Prepared
import TableReach.Proofs.Classification.FirstStatement
import TableReach.Proofs.Run.Isolation
import TableReach.Proofs.Run.Monotonicity
import TableReach.Proofs.Run.Accounting
import TableReach.Proofs.Run.Tally
import TableReach.Proofs.CallGraph.Depth
import TableReach.Proofs.CallGraph.Worklist
import TableReach.Proofs.Run.Composition
import TableReach.Proofs.Settings.Precedence
import TableReach.Proofs.Text.Atoms
import TableReach.Proofs.Template.Conservation
import TableReach.Proofs.Template.ShapeGrammar
import TableReach.Proofs.Template.Placeholder
import TableReach.Proofs.Template.Canonical
import TableReach.Proofs.Template.Protected
import TableReach.Proofs.Template.Slack
import TableReach.Proofs.Template.Tightening
import TableReach.Proofs.Template.Settling
import TableReach.Proofs.Template.Walls
import TableReach.Proofs.Classification.KeywordCaptures
import TableReach.Proofs.Classification.KeywordTables
import TableReach.Proofs.Classification.Stages
import TableReach.Proofs.Classification.KeywordOperation
import TableReach.Proofs.Template.Repetition
import TableReach.Proofs.Template.Leftover
import TableReach.Proofs.Classification.CacheHistory
import TableReach.Proofs.OrderedTable
import TableReach.Proofs.Matching.Attribution
import TableReach.Proofs.Matching.Precision
import TableReach.Proofs.Matching.Strategies
import TableReach.Proofs.Report.Grouping
import TableReach.Proofs.Position
import TableReach.Proofs.Report.Colour
import TableReach.Proofs.Sql.TableName
import TableReach.Proofs.Classification.Preview
