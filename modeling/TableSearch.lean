import TableSearch.FileTree
import TableSearch.Main
import TableSearch.Proofs.Text.Fold
import TableSearch.Proofs.Query.Place
import TableSearch.Proofs.Query.Reading
import TableSearch.Proofs.Query.Parts
import TableSearch.Proofs.Term.Classify
import TableSearch.Proofs.Query.Remainder
import TableSearch.Proofs.Query.Alternatives
import TableSearch.Proofs.Selection
import TableSearch.Proofs.Target
import TableSearch.Proofs.Search.Answer
import TableSearch.Proofs.Search.Composition
import TableSearch.Proofs.Search.Conjunction
import TableSearch.Proofs.Search.DictionaryWords
import TableSearch.Proofs.Search.Exclusion
import TableSearch.Proofs.Search.Consistency
import TableSearch.Proofs.Search.Fallback
import TableSearch.Proofs.Search.TrailingAnd
import TableSearch.Proofs.Search.Choice
import TableSearch.Proofs.Search.Failure
import TableSearch.Proofs.Search.RowByRow
import TableSearch.Proofs.Table
import TableSearch.Proofs.Search.SameRows
import TableSearch.Proofs.Text.Uppercase
import TableSearch.Proofs.Query.Uppercase
import TableSearch.Proofs.Term.Uppercase
import TableSearch.Proofs.Text.Spacing
import TableSearch.Proofs.Query.Spacing
import TableSearch.Proofs.Search.CaseAndSpacing
import TableSearch.Proofs.Denotation
import TableSearch.Proofs.Text.WholeWord
import TableSearch.Proofs.Text.WordBoundary
import TableSearch.Proofs.Search.OwnRows
import TableSearch.Proofs.Json.Outermost
import TableSearch.Proofs.UnitSources
import TableSearch.Proofs.Numeral
import TableSearch.Proofs.Query.Settled
import TableSearch.Proofs.Query.Pieces
import TableSearch.Proofs.Query.Validity
import TableSearch.Proofs.FloatOrder
import TableSearch.Proofs.Text.FoldSigns
import TableSearch.Proofs.Quantity
import TableSearch.Proofs.Term.Numeric
import TableSearch.Proofs.Interval
import TableSearch.Proofs.UnitReading
import TableSearch.Proofs.NumericCell
import TableSearch.Proofs.Text.NormalForm
import TableSearch.Proofs.Text.Piecewise
import TableSearch.Proofs.Query.Quotation
import TableSearch.Proofs.Query.AnyOf
import TableSearch.Proofs.Query.Interleaving
import TableSearch.Proofs.Query.AndParts
import TableSearch.Proofs.Query.Rejoined
import TableSearch.Proofs.Report
import TableSearch.Proofs.UnitSpelling
import TableSearch.Proofs.RequiredUnit
