import EntityMapper.Calendar.Basic
import EntityMapper.Calendar.Printer
import EntityMapper.Calendar.Reader
import EntityMapper.Decimal.Arithmetic
import EntityMapper.Decimal.Binary
import EntityMapper.Decimal.Layout
import EntityMapper.Decimal.Reader
import EntityMapper.Decimal.Shortest
import EntityMapper.Declaration.Derive
import EntityMapper.Declaration.Directive
import EntityMapper.Declaration.Gap
import EntityMapper.Declaration.Token
import EntityMapper.Dialect
import EntityMapper.Driver.Basic
import EntityMapper.Driver.Scripted
import EntityMapper.Driver.Standard
import EntityMapper.Driver.Typed
import EntityMapper.Duration
import EntityMapper.Error
import EntityMapper.Json.Basic
import EntityMapper.Json.Printer
import EntityMapper.Json.Reader
import EntityMapper.Model.Accessor
import EntityMapper.Model.Basic
import EntityMapper.Model.Registry
import EntityMapper.Row
import EntityMapper.Run.Access
import EntityMapper.Run.Basic
import EntityMapper.Run.Clock
import EntityMapper.Scenario.Run
import EntityMapper.Scenario.Stage
import EntityMapper.Scenario.Step
import EntityMapper.Session.Basic
import EntityMapper.Session.Operation
import EntityMapper.Session.Pipeline
import EntityMapper.Session.QueryLog
import EntityMapper.Sql.Expression
import EntityMapper.Sql.Piece
import EntityMapper.Sql.QueryType
import EntityMapper.Sql.Statement
import EntityMapper.Sql.Template
import EntityMapper.Text.Ascii
import EntityMapper.Text.Blank
import EntityMapper.Text.Boundary
import EntityMapper.Text.Hex
import EntityMapper.Text.Integer
import EntityMapper.Text.LetterCase
import EntityMapper.Text.Printable
import EntityMapper.Text.Quoted
import EntityMapper.Text.Segments
import EntityMapper.Text.Utf8
import EntityMapper.Trace
import EntityMapper.Transaction.Basic
import EntityMapper.Transaction.Handle
import EntityMapper.Transaction.Options
import EntityMapper.Uuid
import EntityMapper.Value.Basic
import EntityMapper.Value.Conversion
import EntityMapper.Value.Json
import EntityMapper.Wire.BigEndian
import EntityMapper.Wire.ColumnType
import EntityMapper.Proofs.Model.Registry
import EntityMapper.Proofs.Run.Eval
import EntityMapper.Proofs.Session.Build
import EntityMapper.Proofs.Sql.Binding
import EntityMapper.Proofs.Sql.Layout
import EntityMapper.Proofs.Text.Integer
import EntityMapper.Proofs.Text.Utf8
import EntityMapper.Proofs.Decimal.Rounding
import EntityMapper.Proofs.Decimal.Widening
import EntityMapper.Proofs.Driver.Recording
import EntityMapper.Proofs.Model.Accessor
import EntityMapper.Proofs.Model.Writing
import EntityMapper.Proofs.Sql.Conditions
import EntityMapper.Proofs.Session.Insertion
import EntityMapper.Proofs.Sql.Alignment
import EntityMapper.Proofs.Transaction.Alone
import EntityMapper.Proofs.Transaction.Ambient
import EntityMapper.Proofs.Transaction.Body
import EntityMapper.Proofs.Transaction.Coherence
import EntityMapper.Proofs.Transaction.LifeCycle
import EntityMapper.Proofs.Transaction.Outcome
import EntityMapper.Proofs.Wire.Columns
import EntityMapper.Proofs.Model.Registration
import EntityMapper.Proofs.Session.History
import EntityMapper.Proofs.Sql.Dialects
import EntityMapper.Proofs.Session.Dialects
import EntityMapper.Proofs.Line.Tenancy
import EntityMapper.Proofs.Line.Programs
import EntityMapper.Proofs.Declaration.Columns
import EntityMapper.Proofs.Session.Choices
import EntityMapper.Proofs.Session.Nesting
import EntityMapper.Proofs.Session.Harmless
import EntityMapper.Proofs.Session.Delivery
import EntityMapper.Proofs.Transaction.Steady
import EntityMapper.Proofs.Transaction.Origin
import EntityMapper.Proofs.Transaction.Block
import EntityMapper.Proofs.Run.Mirror
import EntityMapper.Proofs.Session.Mirror
import EntityMapper.Proofs.Transaction.Mirror
import EntityMapper.Proofs.Sql.Grammar
import EntityMapper.Proofs.Sql.Names
import EntityMapper.Proofs.Value.Canonical
import EntityMapper.Proofs.Sql.Mentions
import EntityMapper.Proofs.Session.Screening
import EntityMapper.Proofs.Sql.Upsert
import EntityMapper.Proofs.Session.Upsert
import EntityMapper.Proofs.Session.Race
import EntityMapper.Proofs.Text.Blank
import EntityMapper.Proofs.Text.Numeral
import EntityMapper.Proofs.Uuid
import EntityMapper.Proofs.Value.Integers
import EntityMapper.Proofs.Value.Spelling
import EntityMapper.Proofs.Sql.Fragments
import EntityMapper.Proofs.Calendar.Text
import EntityMapper.Proofs.Run.Matching
import EntityMapper.Proofs.Session.Indifference
import EntityMapper.Proofs.Session.Log
import EntityMapper.Proofs.Text.Boundary
import EntityMapper.Proofs.Session.Excerpt
import EntityMapper.Proofs.Model.Layout
import EntityMapper.Proofs.Decimal.Numeral
import EntityMapper.Proofs.Model.Reporting
import EntityMapper.Proofs.Session.Forwarding
import EntityMapper.Proofs.Session.Reads
import EntityMapper.Proofs.Run.Pace
import EntityMapper.Proofs.Session.Pace
import EntityMapper.Proofs.Scenario.Pace
import EntityMapper.Proofs.Scenario.Timeouts
