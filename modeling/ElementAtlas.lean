import ElementAtlas.Main
import ElementAtlas.Scalar.Rational
import ElementAtlas.Proofs.Atlas.Resolution
import ElementAtlas.Proofs.UnitExpression.Grammar
import ElementAtlas.Proofs.UnitExpression.Lexical
import ElementAtlas.Proofs.UnitExpression.Soundness
import ElementAtlas.Proofs.UnitExpression.Completeness
import ElementAtlas.Proofs.PhysicalUnit.Parse
import ElementAtlas.Proofs.PhysicalUnit.Operations
import ElementAtlas.Proofs.Quantity.Typing
import ElementAtlas.Proofs.Scalar.Binary
import ElementAtlas.Proofs.Scalar.Lawful
import ElementAtlas.Proofs.UnitExpression.Writing
import ElementAtlas.Proofs.Dimension.BaseSymbol
import ElementAtlas.Proofs.PhysicalUnit.Symbol
import ElementAtlas.Proofs.Query.Path
import ElementAtlas.Proofs.Query.Steps
import ElementAtlas.Proofs.Query.OptionalChaining
import ElementAtlas.Proofs.Query.Inside
import ElementAtlas.Proofs.PhysicalUnit.Standard
import ElementAtlas.Proofs.Query.Dangling
import ElementAtlas.Proofs.Element.Measured
import ElementAtlas.Proofs.Atlas.Selection
import ElementAtlas.Proofs.Query.Extension
import ElementAtlas.Proofs.Query.Answers
import ElementAtlas.Proofs.CommandLine.Commands
import ElementAtlas.Proofs.Scalar.Rounding
import ElementAtlas.Proofs.Scalar.Exact
import ElementAtlas.Proofs.Scalar.Tolerance
import ElementAtlas.Proofs.PhysicalUnit.Conversion
import ElementAtlas.Proofs.Quantity.Mirror
import ElementAtlas.Proofs.Quantity.Scales
import ElementAtlas.Proofs.Scalar.Symmetry
import ElementAtlas.Proofs.Atlas.Rearrangement
import ElementAtlas.Proofs.Element.RoundTrip
import ElementAtlas.Proofs.Query.OrderIndependence
import ElementAtlas.Proofs.StringTable.Resumption
import ElementAtlas.Proofs.StringTable.Writing
import ElementAtlas.Proofs.Query.Description
import ElementAtlas.Proofs.Quantity.BaseValues
import ElementAtlas.Proofs.UnitExpression.Overflow
import ElementAtlas.Proofs.PhysicalUnit.Composition
import ElementAtlas.Proofs.UnitExpression.Splicing
import ElementAtlas.Proofs.PhysicalUnit.Misread
import ElementAtlas.Proofs.Element.Validation
import ElementAtlas.Proofs.Document.Validation
import ElementAtlas.Proofs.FileTree.Traversal
import ElementAtlas.Proofs.FileTree.Reading
import ElementAtlas.Proofs.FileTree.Directory
import ElementAtlas.Proofs.Atlas.Loaded
import ElementAtlas.Proofs.Query.Stability
import ElementAtlas.Proofs.Query.Range
import ElementAtlas.Proofs.Scalar.Infinity
import ElementAtlas.Proofs.Query.Infinite
import ElementAtlas.Proofs.FileTree.Building
import ElementAtlas.Proofs.Element.Heat
import ElementAtlas.Proofs.Query.Comparison
import ElementAtlas.Proofs.StringTable.Continuation
import ElementAtlas.Proofs.Query.Comparability
import ElementAtlas.Proofs.Atlas.Sorting
import ElementAtlas.Proofs.Atlas.Searching
import ElementAtlas.Proofs.Query.Membership
import ElementAtlas.Proofs.Element.HeatBalance
import ElementAtlas.Proofs.Markup.Stripping
import ElementAtlas.Proofs.StringTable.Insertion
import ElementAtlas.Proofs.Dimension.Texts
import ElementAtlas.Proofs.Report.Layout
import ElementAtlas.Proofs.Query.Composition
import ElementAtlas.Proofs.Query.Binding
import ElementAtlas.Proofs.UnitExpression.Progress
