import LangServer.Checker.Basic
import LangServer.Checker.Session
import LangServer.Cli.Options
import LangServer.Cli.Run
import LangServer.Configuration
import LangServer.Diagnostic
import LangServer.Document
import LangServer.Double.Basic
import LangServer.Double.Shortest
import LangServer.Fault
import LangServer.FileSystem
import LangServer.Json.Access
import LangServer.Json.Arithmetic
import LangServer.Json.Basic
import LangServer.Json.Display
import LangServer.Json.Parser
import LangServer.Json.Table
import LangServer.Json.Writer
import LangServer.Logging
import LangServer.Logging.Basic
import LangServer.Logging.Configure
import LangServer.Logging.Format
import LangServer.Logging.Setting
import LangServer.Machine
import LangServer.Main
import LangServer.Number
import LangServer.Path
import LangServer.Program.Definition
import LangServer.Program.Graph
import LangServer.Program.Hover
import LangServer.Program.Import
import LangServer.Program.Locate
import LangServer.Program.Lookup
import LangServer.Proofs.Diagnostics.ClientView
import LangServer.Proofs.Diagnostics.Report
import LangServer.Proofs.Step
import LangServer.Protocol
import LangServer.Rpc.Body
import LangServer.Rpc.Frame
import LangServer.Rpc.Message
import LangServer.Rpc.Method
import LangServer.Rpc.Word
import LangServer.Server.Basic
import LangServer.Server.Channel
import LangServer.Server.Endpoint
import LangServer.Server.Handler
import LangServer.Text.Lines
import LangServer.Text.Numeral
import LangServer.Text.Pattern
import LangServer.Text.Printable
import LangServer.Text.Quoted
import LangServer.Text.Ranges
import LangServer.Text.Replace
import LangServer.Text.Slice
import LangServer.Text.Utf8
import LangServer.Text.Word
import LangServer.Uri.FilePath
import LangServer.Uri.Host
import LangServer.Uri.Parts
import LangServer.Uri.Percent
import LangServer.Workspace
import LangServer.Proofs.Diagnostics.Publish
import LangServer.Proofs.Diagnostics.Staleness
import LangServer.Proofs.Editing.ClientText
import LangServer.Proofs.Editing.Synchrony
import LangServer.Proofs.Editing.Store
import LangServer.Proofs.Uri.Coding
import LangServer.Proofs.Uri.RoundTrip
import LangServer.Proofs.Diagnostics.Grouping
import LangServer.Proofs.Checking.Check
import LangServer.Proofs.Checking.Start
import LangServer.Proofs.Checking.Messages
import LangServer.Proofs.Checking.Lifecycle
import LangServer.Proofs.Uri.FilePath
import LangServer.Proofs.Uri.Stability
import LangServer.Proofs.Diagnostics.Spelling
import LangServer.Proofs.Program.Walk
import LangServer.Proofs.Program.Agreement
import LangServer.Proofs.Diagnostics.Ranges
import LangServer.Proofs.Server.Stopping
import LangServer.Proofs.Server.Watch
import LangServer.Proofs.Checking.Running
import LangServer.Proofs.Editing.Offset
import LangServer.Proofs.Diagnostics.Grammar
import LangServer.Proofs.Checking.Bracket
import LangServer.Proofs.Program.FullName
import LangServer.Proofs.Program.HomeFile
import LangServer.Proofs.Program.Innermost
import LangServer.Proofs.Program.Members
import LangServer.Proofs.Import.Layout
import LangServer.Proofs.Import.Search
import LangServer.Proofs.Import.Cursor
import LangServer.Proofs.Checking.Mode
import LangServer.Proofs.Editing.Word
import LangServer.Proofs.Import.Excerpt
import LangServer.Proofs.Program.TypeText
import LangServer.Proofs.Diagnostics.Drives
import LangServer.Proofs.Path.Names
import LangServer.Proofs.Path.Parents
