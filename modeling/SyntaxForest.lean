import SyntaxForest.Forest.Ancestry
import SyntaxForest.Forest.Run
import SyntaxForest.Node.Find
import SyntaxForest.Node.Render
import SyntaxForest.Node.Template
import SyntaxForest.Node.Walk
import SyntaxForest.Numeral.Reader
import SyntaxForest.Release
import SyntaxForest.Proofs.LineSearch
import SyntaxForest.Proofs.LineOrder
import SyntaxForest.Proofs.Conversion
import SyntaxForest.Proofs.LinearScan
import SyntaxForest.Proofs.Descendants
import SyntaxForest.Proofs.Samples
import SyntaxForest.Proofs.NodeSearch
import SyntaxForest.Proofs.OrderedSiblings
import SyntaxForest.Proofs.Printing
import SyntaxForest.Proofs.Bracketed
import SyntaxForest.Proofs.Outline
import SyntaxForest.Proofs.Readability
import SyntaxForest.Proofs.LineScan
import SyntaxForest.Proofs.LinePartition
import SyntaxForest.Proofs.ForwardDeclarations
import SyntaxForest.Proofs.Construction
import SyntaxForest.Proofs.NodeSpans
import SyntaxForest.Proofs.Ancestors
import SyntaxForest.Proofs.Visits
import SyntaxForest.Proofs.TreeViews
import SyntaxForest.Proofs.PrintedLeaves
import SyntaxForest.Proofs.ParentLinks
import SyntaxForest.Proofs.Scopes
import SyntaxForest.Proofs.FailedConstruction
import SyntaxForest.Proofs.Stability
import SyntaxForest.Proofs.LineSplitting
import SyntaxForest.Proofs.PositionSearch
import SyntaxForest.Proofs.WalkLoop
import SyntaxForest.Proofs.Likeness
import SyntaxForest.Proofs.LeafWidths
import SyntaxForest.Proofs.StringLiterals
import SyntaxForest.Proofs.ScopeClimbs
import SyntaxForest.Proofs.SpanExtension
import SyntaxForest.Proofs.Brackets
import SyntaxForest.Proofs.LeafBrackets
import SyntaxForest.Proofs.BalancedPrinting
