import TermKeys.Binding
import TermKeys.Command
import TermKeys.CommandLine.Arguments
import TermKeys.CommandLine.Run
import TermKeys.Condition
import TermKeys.Descriptor
import TermKeys.Diagnostic
import TermKeys.Encoding.Basic
import TermKeys.Encoding.Codec
import TermKeys.Encoding.Named
import TermKeys.Encoding.Strict
import TermKeys.Encoding.Utf16
import TermKeys.Encoding.Utf8
import TermKeys.Encoding.Utf8.Lemmas
import TermKeys.Escape
import TermKeys.Fault
import TermKeys.FileTree
import TermKeys.Json.Basic
import TermKeys.Json.Parser
import TermKeys.Json.Printer
import TermKeys.Key
import TermKeys.Layout
import TermKeys.Layout.Search
import TermKeys.Layout.Stored
import TermKeys.Line
import TermKeys.Main
import TermKeys.Modifier
import TermKeys.Number.Binary
import TermKeys.Path
import TermKeys.Proofs.Binding
import TermKeys.Proofs.Command
import TermKeys.Proofs.CommandLine.Dump
import TermKeys.Proofs.CommandLine.Reports
import TermKeys.Proofs.Condition
import TermKeys.Proofs.Descriptor
import TermKeys.Proofs.Descriptor.Division
import TermKeys.Proofs.Descriptor.Items
import TermKeys.Proofs.Descriptor.Joined
import TermKeys.Proofs.Descriptor.Scan
import TermKeys.Proofs.Encoding.Ascii
import TermKeys.Proofs.Encoding.Codec
import TermKeys.Proofs.Encoding.Lenient
import TermKeys.Proofs.Encoding.Strict
import TermKeys.Proofs.Encoding.Utf8
import TermKeys.Proofs.Escape
import TermKeys.Proofs.FileTree
import TermKeys.Proofs.FileTree.Directory
import TermKeys.Proofs.Json.Framing
import TermKeys.Proofs.Json.Nesting
import TermKeys.Proofs.Json.Strings
import TermKeys.Proofs.Json.Values
import TermKeys.Proofs.Key
import TermKeys.Proofs.Key.Joined
import TermKeys.Proofs.Layout.Changes
import TermKeys.Proofs.Layout.Description
import TermKeys.Proofs.Layout.Encodings
import TermKeys.Proofs.Layout.Groups
import TermKeys.Proofs.Layout.Lines
import TermKeys.Proofs.Layout.Listing
import TermKeys.Proofs.Layout.Loading
import TermKeys.Proofs.Layout.Lookup
import TermKeys.Proofs.Layout.Order
import TermKeys.Proofs.Layout.Reload
import TermKeys.Proofs.Layout.Saving
import TermKeys.Proofs.Layout.Search
import TermKeys.Proofs.Layout.Written
import TermKeys.Proofs.Line
import TermKeys.Proofs.Line.Comment
import TermKeys.Proofs.Line.Pattern
import TermKeys.Proofs.Line.Scan
import TermKeys.Proofs.Line.Sent
import TermKeys.Proofs.Line.Separator
import TermKeys.Proofs.Line.Tail
import TermKeys.Proofs.Line.Title
import TermKeys.Proofs.Line.Tokens
import TermKeys.Proofs.Line.Words
import TermKeys.Proofs.Reader.Alike
import TermKeys.Proofs.Reader.Bytes
import TermKeys.Proofs.Reader.Calls
import TermKeys.Proofs.Reader.Conditionless
import TermKeys.Proofs.Reader.Document
import TermKeys.Proofs.Reader.Faults
import TermKeys.Proofs.Reader.Named
import TermKeys.Proofs.Reader.Tokens
import TermKeys.Proofs.Reader.Utf8
import TermKeys.Proofs.Reader.View
import TermKeys.Proofs.Reader.Whole
import TermKeys.Proofs.Settings.Loading
import TermKeys.Proofs.Settings.Reload
import TermKeys.Proofs.Text.Base64
import TermKeys.Proofs.Text.Lines
import TermKeys.Proofs.Text.Numeral
import TermKeys.Proofs.Text.Plain
import TermKeys.Proofs.Unicode.Folding
import TermKeys.Proofs.Unicode.Words
import TermKeys.Reader
import TermKeys.Report
import TermKeys.Settings.Basic
import TermKeys.Settings.Stored
import TermKeys.Text.Base64
import TermKeys.Text.Basic
import TermKeys.Text.Numeral
import TermKeys.Text.Points
import TermKeys.Text.Quoted
import TermKeys.Text.Words
import TermKeys.Unicode.Alphanumeric
import TermKeys.Unicode.Blank
import TermKeys.Unicode.Case
import TermKeys.Unicode.Decimal
import TermKeys.Unicode.Printable
import TermKeys.Unicode.Ranges
