import TextTemplate.Text.Blank
import TextTemplate.Text.Case
import TextTemplate.Text.Cluster
import TextTemplate.Text.Quoted
import TextTemplate.Text.Width
import TextTemplate.Text.EditDistance
import TextTemplate.Text.Numeral
import TextTemplate.Decimal.Reading
import TextTemplate.Decimal.Layout
import TextTemplate.Mapping
import TextTemplate.Value.Basic
import TextTemplate.Value.Lookup
import TextTemplate.Value.Order
import TextTemplate.Value.Printing
import TextTemplate.Json.Writer
import TextTemplate.Json.Reader
import TextTemplate.Value.Serial
import TextTemplate.Token.Segment
import TextTemplate.Token.Phrase
import TextTemplate.Error
import TextTemplate.Suggestion
import TextTemplate.Filter.Standard
import TextTemplate.Condition.Precedence
import TextTemplate.Parser
import TextTemplate.Time.Format
import TextTemplate.Render.Nodes
import TextTemplate.Filter.Stock
import TextTemplate.Recording
import TextTemplate.Tag.Stock
import TextTemplate.CommandLine.Run
import TextTemplate.Main
import TextTemplate.Proofs.Render.Balance
import TextTemplate.Proofs.Render.Halting
import TextTemplate.Proofs.Condition.Climbing
import TextTemplate.Proofs.Condition.QuotedDots
import TextTemplate.Proofs.Condition.RangeNumbers
import TextTemplate.Proofs.Inheritance.Descent
import TextTemplate.Proofs.Path.Confinement
import TextTemplate.Proofs.Loading.Below
import TextTemplate.Proofs.Text.Blank
import TextTemplate.Proofs.Parsing.Body
import TextTemplate.Proofs.Parsing.Return
import TextTemplate.Proofs.Parsing.Comments
import TextTemplate.Proofs.Parsing.Checked
import TextTemplate.Proofs.Token.Segmentation
import TextTemplate.Proofs.Parsing.Readers
import TextTemplate.Proofs.Parsing.Nesting
import TextTemplate.Proofs.Parsing.Markup
import TextTemplate.Proofs.Parsing.ParsedMarkup
import TextTemplate.Proofs.Parsing.Locality
import TextTemplate.Proofs.Parsing.Mention
import TextTemplate.Proofs.Scope.Spread
import TextTemplate.Proofs.Scope.Flattening
import TextTemplate.Proofs.Render.Iterations
import TextTemplate.Proofs.Render.Limits
import TextTemplate.Proofs.Render.Failures
import TextTemplate.Proofs.Render.Negation
import TextTemplate.Proofs.Render.Region
import TextTemplate.Proofs.Loading.Transparency
import TextTemplate.Proofs.Loading.Inlining
import TextTemplate.Proofs.Loading.Keeping
import TextTemplate.Proofs.Loading.Search
import TextTemplate.Proofs.Inheritance.EmptyChild
import TextTemplate.Proofs.Inheritance.Replaced
import TextTemplate.Proofs.Inheritance.Exchange
import TextTemplate.Proofs.Value.Serial
import TextTemplate.Proofs.Value.Paths
import TextTemplate.Proofs.Filter.Written
import TextTemplate.Proofs.Filter.Count
import TextTemplate.Proofs.Filter.Uses
import TextTemplate.Proofs.Suggestion
import TextTemplate.Proofs.Diagnostic.Label
import TextTemplate.Proofs.Condition.Comparison
import TextTemplate.Proofs.Filter.Splitting
import TextTemplate.Proofs.Filter.Indentation
import TextTemplate.Proofs.Value.Printing
import TextTemplate.Proofs.Value.Views
import TextTemplate.Proofs.Diagnostic.Occurrence
