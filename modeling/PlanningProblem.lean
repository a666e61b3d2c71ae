import PlanningProblem.Datum
import PlanningProblem.Description.Basic
import PlanningProblem.Description.Decode
import PlanningProblem.Description.Document
import PlanningProblem.Description.Encode
import PlanningProblem.Description.Format
import PlanningProblem.Description.Load
import PlanningProblem.Description.Mismatch
import PlanningProblem.Folder
import PlanningProblem.Formula.Basic
import PlanningProblem.Formula.Combinators
import PlanningProblem.Formula.Layout
import PlanningProblem.Formula.Printer
import PlanningProblem.Formula.Term
import PlanningProblem.Formula.Tree
import PlanningProblem.Json.Number
import PlanningProblem.Numeric.Binary64
import PlanningProblem.Numeric.Scaled
import PlanningProblem.Numeric.Shortest
import PlanningProblem.Object.Basic
import PlanningProblem.Object.Listing
import PlanningProblem.Problem.Basic
import PlanningProblem.Problem.Definition
import PlanningProblem.Problem.History
import PlanningProblem.Proofs.Formula.Lines
import PlanningProblem.Proofs.Formula.Outline
import PlanningProblem.Proofs.Formula.TermLayout
import PlanningProblem.Proofs.Formula.TermOutline
import PlanningProblem.Proofs.Separation
import PlanningProblem.Proposition.Basic
import PlanningProblem.Proposition.Notation
import PlanningProblem.SortedSet.Basic
import PlanningProblem.SortedSet.Lemmas
import PlanningProblem.Text.Printable
import PlanningProblem.Text.Quoted
import PlanningProblem.Text.WhiteSpace
import PlanningProblem.Toml.Document
import PlanningProblem.Toml.Key
import PlanningProblem.Toml.Moment
import PlanningProblem.Toml.Numeral
import PlanningProblem.Toml.Reader.Basic
import PlanningProblem.Toml.Reader.Lemmas
import PlanningProblem.Toml.Table
import PlanningProblem.Toml.Text
import PlanningProblem.Toml.Trivia
import PlanningProblem.Toml.Value
import PlanningProblem.Proofs.Formula.WordDepth
import PlanningProblem.Proofs.Formula.TermReading
import PlanningProblem.Proofs.Problem.CanonicalForm
import PlanningProblem.Proofs.Problem.FinalState
import PlanningProblem.Proofs.Problem.TextReading
import PlanningProblem.Proofs.Proposition.Reading
import PlanningProblem.Proofs.Problem.Duplicates
import PlanningProblem.Proofs.Formula.Indentation
import PlanningProblem.Proofs.Problem.Document
import PlanningProblem.Proofs.Description.Entries
import PlanningProblem.Proofs.Description.Reload
import PlanningProblem.Proofs.Balance
import PlanningProblem.Proofs.Problem.SingleExpression
import PlanningProblem.Proofs.Proposition.Words
import PlanningProblem.Proofs.Description.Denotation
import PlanningProblem.Proofs.Description.Schema
import PlanningProblem.Proofs.Toml.DistinctKeys
import PlanningProblem.Proofs.Description.SameTree
import PlanningProblem.Proofs.Description.FormatAgreement
import PlanningProblem.Proofs.Proposition.Grammar
import PlanningProblem.Proofs.Description.Rearrangement
import PlanningProblem.Proofs.Toml.QuotedText
import PlanningProblem.Proofs.Toml.NestedArrays
import PlanningProblem.Proofs.Toml.StatementLines
import PlanningProblem.Proofs.Description.DocumentReading
import PlanningProblem.SortedSet.History
import PlanningProblem.Proofs.SortedSet.Representation
import PlanningProblem.Proofs.Formula.Grouping
import PlanningProblem.Proofs.Description.FormulaReading
