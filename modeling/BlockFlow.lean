import BlockFlow.Command.Arguments
import BlockFlow.Command.FileTree
import BlockFlow.Command.Path
import BlockFlow.Command.Run
import BlockFlow.Decimal.Layout
import BlockFlow.Decimal.Shortest
import BlockFlow.Diagram.Basic
import BlockFlow.Diagram.Building
import BlockFlow.Diagram.Conversion
import BlockFlow.Diagram.Loading
import BlockFlow.Diagram.Schema
import BlockFlow.Json.Basic
import BlockFlow.Json.Display
import BlockFlow.Json.Encoding
import BlockFlow.Json.Printer
import BlockFlow.Json.Reader
import BlockFlow.Log
import BlockFlow.Main
import BlockFlow.Program.Basic
import BlockFlow.Program.Codec
import BlockFlow.Proofs.Diagram.Assembly
import BlockFlow.Service
import BlockFlow.Service.Form
import BlockFlow.Service.Sending
import BlockFlow.Session
import BlockFlow.Settings
import BlockFlow.Source.Braces.Dialect
import BlockFlow.Source.Braces.Layout
import BlockFlow.Source.Language
import BlockFlow.Source.Line
import BlockFlow.Source.Marking
import BlockFlow.Source.Python.Expression
import BlockFlow.Source.Python.Layout
import BlockFlow.Source.Rendering
import BlockFlow.Source.Scopes
import BlockFlow.Source.Writer
import BlockFlow.Text.Basic
import BlockFlow.Text.Blank
import BlockFlow.Text.Case
import BlockFlow.Text.Case.Tables
import BlockFlow.Text.Digit
import BlockFlow.Text.Number
import BlockFlow.Text.Printable
import BlockFlow.Text.Quoted
import BlockFlow.Text.Ranges
import BlockFlow.Text.Utf16
import BlockFlow.Text.Utf32
import BlockFlow.Text.Utf8
import BlockFlow.Text.Word
import BlockFlow.Proofs.Diagram.Following
import BlockFlow.Proofs.Diagram.Placement
import BlockFlow.Proofs.Diagram.Structure
import BlockFlow.Proofs.Program.RoundTrip
import BlockFlow.Proofs.Session.Agreement
import BlockFlow.Proofs.Diagram.Termination
import BlockFlow.Proofs.Source.Unmarking
import BlockFlow.Proofs.Source.Balance
import BlockFlow.Proofs.Source.Units
import BlockFlow.Proofs.Positions
import BlockFlow.Proofs.Fallible
import BlockFlow.Proofs.Source.Occurrence
import BlockFlow.Proofs.Source.Declaring
import BlockFlow.Proofs.Source.Indentation
import BlockFlow.Proofs.Source.Clauses
import BlockFlow.Proofs.Diagram.Definitions
import BlockFlow.Proofs.Program.Relabelling
import BlockFlow.Proofs.Source.Anonymity
import BlockFlow.Proofs.Diagram.Simulation
import BlockFlow.Proofs.Diagram.Insensitivity
import BlockFlow.Proofs.Diagram.Renaming
import BlockFlow.Proofs.Source.Written
import BlockFlow.Proofs.Source.Placeholders
import BlockFlow.Proofs.Program.Places
import BlockFlow.Proofs.Source.Insertion
import BlockFlow.Proofs.Program.Loading
import BlockFlow.Proofs.Program.Rekinding
import BlockFlow.Proofs.Source.Kinds
import BlockFlow.Proofs.Session.Resaving
import BlockFlow.Proofs.Diagram.Closed
import BlockFlow.Proofs.Diagram.Validation
import BlockFlow.Proofs.Diagram.Acceptance
import BlockFlow.Proofs.Diagram.Expansion
import BlockFlow.Proofs.Source.Encodable
import BlockFlow.Proofs.Source.Scoping
import BlockFlow.Proofs.Text.Encodable
import BlockFlow.Proofs.Diagram.Encodable
import BlockFlow.Proofs.Command.Delivery
import BlockFlow.Proofs.Command.Discipline
import BlockFlow.Proofs.Command.Files
import BlockFlow.Proofs.Command.Reading
import BlockFlow.Proofs.Text.Replacing
import BlockFlow.Proofs.Source.Spelling
import BlockFlow.Proofs.Source.Literals
import BlockFlow.Proofs.Source.Lengths
import BlockFlow.Proofs.Source.Increments
import BlockFlow.Proofs.Text.Items
import BlockFlow.Proofs.Diagram.Lists
import BlockFlow.Proofs.Session.Outcomes
import BlockFlow.Proofs.Source.Bracing
import BlockFlow.Proofs.Source.Blocks
import BlockFlow.Proofs.Source.Redeclaring
import BlockFlow.Proofs.Source.Tracking
import BlockFlow.Proofs.Source.Emission
import BlockFlow.Proofs.Source.Framing
