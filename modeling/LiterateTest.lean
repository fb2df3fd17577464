import LiterateTest.Expression.Outline
import LiterateTest.Shell.Run
import LiterateTest.Proofs.Run.Report
import LiterateTest.Proofs.Expression.Soundness
import LiterateTest.Proofs.Expression.Completeness
import LiterateTest.Proofs.Expression.Acceptance
import LiterateTest.Proofs.Expression.Lexing
import LiterateTest.Proofs.Expression.TokenEnd
import LiterateTest.Proofs.Expression.Outside
import LiterateTest.Proofs.Expression.Conjunction
import LiterateTest.Proofs.Document.Validation
import LiterateTest.Proofs.Expression.Scope
import LiterateTest.Proofs.Expression.Highest
import LiterateTest.Proofs.Fixture.Verdict
import LiterateTest.Proofs.Document.OutputCheck
import LiterateTest.Proofs.Document.Nesting
import LiterateTest.Proofs.Document.Segment
import LiterateTest.Proofs.Document.Declaration
import LiterateTest.Proofs.Document.Settlement
import LiterateTest.Proofs.Document.Order
import LiterateTest.Proofs.Document.Section
import LiterateTest.Proofs.Document.TestCount
import LiterateTest.Proofs.Tree.Aggregation
import LiterateTest.Proofs.Expression.Literal
import LiterateTest.Proofs.Run.Isolation
import LiterateTest.Proofs.Document.Assertion
import LiterateTest.Proofs.Document.Expansion
import LiterateTest.Proofs.Fixture.Judgement
import LiterateTest.Proofs.Document.Row
import LiterateTest.Proofs.Document.Negation
import LiterateTest.Proofs.Document.Origin
import LiterateTest.Proofs.Document.CommandParts
import LiterateTest.Proofs.Document.PatternText
import LiterateTest.Proofs.Expression.Comparison
import LiterateTest.Proofs.Expression.Arithmetic
import LiterateTest.Proofs.Expression.IntegerPart
import LiterateTest.Proofs.Expression.Order
import LiterateTest.Proofs.Expression.Renaming
import LiterateTest.Proofs.Expression.Quantifier
import LiterateTest.Proofs.Fixture.Binding
import LiterateTest.Proofs.Document.ColumnOrder
import LiterateTest.Proofs.Document.BlankCell
import LiterateTest.Proofs.Document.FrontMatter
import LiterateTest.Proofs.Fixture.Template
import LiterateTest.Proofs.Document.Timeout
import LiterateTest.Proofs.Expression.Printing
import LiterateTest.Proofs.Expression.Position
import LiterateTest.Proofs.Document.FileVariable
import LiterateTest.Proofs.Document.MatchedFile
import LiterateTest.Proofs.Fixture.CommandLine
import LiterateTest.Proofs.Document.BlockReading
import LiterateTest.Proofs.Document.ItemText
import LiterateTest.Proofs.Task.Progress
