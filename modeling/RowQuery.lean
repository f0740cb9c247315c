import RowQuery.Action
import RowQuery.Command.Arguments
import RowQuery.Command.Files
import RowQuery.Command.Ink
import RowQuery.Command.LogFilter
import RowQuery.Command.LogLine
import RowQuery.Command.Report
import RowQuery.Command.Run
import RowQuery.Command.Surroundings
import RowQuery.Compile
import RowQuery.CompileError
import RowQuery.Connector
import RowQuery.Descriptor
import RowQuery.Descriptor.Edit
import RowQuery.Dialect
import RowQuery.Event
import RowQuery.Filter
import RowQuery.Json.Number
import RowQuery.Json.Reader
import RowQuery.Json.Token
import RowQuery.Json.Writer
import RowQuery.Main
import RowQuery.Number.Binary64
import RowQuery.Number.Layout
import RowQuery.Number.Shortest
import RowQuery.Operator
import RowQuery.OrderedMap
import RowQuery.Saved.Descriptor
import RowQuery.Saved.Document
import RowQuery.Saved.Filter
import RowQuery.Saved.Name
import RowQuery.Saved.Schema
import RowQuery.Saved.Value
import RowQuery.Schema
import RowQuery.Settings
import RowQuery.Statement.Draft
import RowQuery.Statement.Fields
import RowQuery.Statement.Fragment
import RowQuery.Statement.Piece
import RowQuery.Statement.Where
import RowQuery.Template
import RowQuery.Text.Blank
import RowQuery.Text.NameChar
import RowQuery.Text.Shown
import RowQuery.Toml.Reader
import RowQuery.Toml.Scalar
import RowQuery.Toml.Table
import RowQuery.Toml.Text
import RowQuery.Tree
import RowQuery.Tree.Decode
import RowQuery.Tree.Fault
import RowQuery.Value
import RowQuery.Proofs.BindMap
import RowQuery.Proofs.Marker
import RowQuery.Proofs.Secrecy
import RowQuery.Proofs.Override
import RowQuery.Proofs.TemplateGrammar
import RowQuery.Proofs.Outcome
import RowQuery.Proofs.LogAccount
import RowQuery.Proofs.RowSelection
import RowQuery.Proofs.JsonNumber
import RowQuery.Proofs.OperatorText
import RowQuery.Proofs.Decode
import RowQuery.Proofs.SavedValue
import RowQuery.Proofs.SavedFilter
import RowQuery.Proofs.SavedDescriptor
import RowQuery.Proofs.EditOrder
import RowQuery.Proofs.WrittenFilter
import RowQuery.Proofs.WrittenDescriptor
import RowQuery.Proofs.ChainAppend
import RowQuery.Proofs.FilterExpression
import RowQuery.Proofs.WriteStatement
import RowQuery.Proofs.LogLevel
import RowQuery.Proofs.CommandOutcome
import RowQuery.Proofs.GroupToken
import RowQuery.Proofs.Handover
import RowQuery.Proofs.TemplateSource
import RowQuery.Proofs.TemplateOpening
import RowQuery.Proofs.TemplateFilling
import RowQuery.Proofs.QuotedTable
import RowQuery.Proofs.OperatorSpelling
import RowQuery.Proofs.UnmarkedValue
import RowQuery.Proofs.RepeatedColumn
