import SqlFragments.Token.Render
import SqlFragments.KeywordCase
import SqlFragments.Column.Reference
import SqlFragments.Column.Listing
import SqlFragments.Condition.Tree
import SqlFragments.Condition.Placeholder
import SqlFragments.Order.Item
import SqlFragments.Select.Draft
import SqlFragments.Grammar.Script
import SqlFragments.Filter.Report
import SqlFragments.Document.Json
import SqlFragments.Document.Toml.Reading
import SqlFragments.Config
import SqlFragments.CommandLine.Run
import SqlFragments.Main
import SqlFragments.Proofs.Text.Trim
import SqlFragments.Proofs.Token.Bracket
import SqlFragments.Proofs.Token.Span
import SqlFragments.Proofs.Token.Parts
import SqlFragments.Proofs.Token.Shape
import SqlFragments.Proofs.Token.Reread
import SqlFragments.Proofs.Token.Written
import SqlFragments.Proofs.Token.RoundTrip
import SqlFragments.Proofs.Token.Seam
import SqlFragments.Proofs.Token.Outside
import SqlFragments.Proofs.Token.Parenthesis
import SqlFragments.Proofs.Token.Quotes
import SqlFragments.Proofs.KeywordCase.Reading
import SqlFragments.Proofs.KeywordCase.Tokens
import SqlFragments.Proofs.KeywordCase.Kept
import SqlFragments.Proofs.KeywordCase.Seam
import SqlFragments.Proofs.KeywordCase.Place
import SqlFragments.Proofs.KeywordCase.IdentifierRun
import SqlFragments.Proofs.Column.Segments
import SqlFragments.Proofs.Column.Recognition
import SqlFragments.Proofs.Column.Grammar
import SqlFragments.Proofs.Condition.Truth
import SqlFragments.Proofs.Condition.Conjunction
import SqlFragments.Proofs.Condition.FilterClause
import SqlFragments.Proofs.Condition.Redirection
import SqlFragments.Proofs.Condition.Fill
import SqlFragments.Proofs.Condition.FilledToken
import SqlFragments.Proofs.Condition.Binding
import SqlFragments.Proofs.Condition.Reanchoring
import SqlFragments.Proofs.Filter.Mention
import SqlFragments.Proofs.Filter.Outline
import SqlFragments.Proofs.Order.Entry
import SqlFragments.Proofs.Order.LeadingWords
import SqlFragments.Proofs.Order.RoundTrip
import SqlFragments.Proofs.Order.Parts
import SqlFragments.Proofs.Order.Settings
import SqlFragments.Proofs.Order.Rendering
import SqlFragments.Proofs.Select.Calls
import SqlFragments.Proofs.Select.SourceAlias
import SqlFragments.Proofs.Select.CallOrder
import SqlFragments.Proofs.Select.Entries
import SqlFragments.Proofs.Select.Clause
import SqlFragments.Proofs.Select.ReadBack
import SqlFragments.Proofs.Condition.Connectors
import SqlFragments.Proofs.Condition.CastTarget
import SqlFragments.Proofs.Text.Comment
import SqlFragments.Proofs.Condition.Sign
import SqlFragments.Proofs.Condition.Alternatives
import SqlFragments.Proofs.Condition.Meaning
import SqlFragments.Proofs.Column.Parts
import SqlFragments.Proofs.Condition.Stages
import SqlFragments.Proofs.KeywordCase.Twice
import SqlFragments.Proofs.Select.InlineAlias
import SqlFragments.Proofs.Column.Listing
import SqlFragments.Proofs.Condition.LeafOrder
import SqlFragments.Proofs.Document.SavedConfig
import SqlFragments.Proofs.Condition.SecondPass
import SqlFragments.Proofs.Token.Spaced
import SqlFragments.Proofs.Token.Unquoted
import SqlFragments.Proofs.Order.TopCommas
