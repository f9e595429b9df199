import BackOffice.Calendar.Date
import BackOffice.Calendar.Layout
import BackOffice.Calendar.LayoutReader
import BackOffice.Calendar.LayoutWriter
import BackOffice.Calendar.Moment
import BackOffice.Config.Lazy
import BackOffice.Config.Resolved
import BackOffice.Console.Arguments
import BackOffice.Console.Report
import BackOffice.Decimal.Binary
import BackOffice.Decimal.Fixed
import BackOffice.Decimal.Reading
import BackOffice.Decimal.Rounding
import BackOffice.Decimal.Shortest
import BackOffice.Field.Coercion
import BackOffice.Field.Kind
import BackOffice.Field.Schema
import BackOffice.Field.View
import BackOffice.Json.Indented
import BackOffice.Json.Parser
import BackOffice.Json.Path
import BackOffice.Json.Printer
import BackOffice.Json.Value
import BackOffice.Keyed
import BackOffice.Main
import BackOffice.Pattern.Basic
import BackOffice.Pattern.Bracket
import BackOffice.Pattern.Escape
import BackOffice.Pattern.Property
import BackOffice.Pattern.Reader
import BackOffice.Pattern.Size
import BackOffice.Permission.Matrix
import BackOffice.Permission.Menu
import BackOffice.Permission.Screen
import BackOffice.Record
import BackOffice.Rehearsal.Command
import BackOffice.Rehearsal.Floor
import BackOffice.Rehearsal.Play
import BackOffice.Response.Envelope
import BackOffice.Response.StepError
import BackOffice.Response.Verdict
import BackOffice.Run.Binding
import BackOffice.Run.Context
import BackOffice.Run.Event
import BackOffice.Run.Graph
import BackOffice.Run.Group
import BackOffice.Run.Handle
import BackOffice.Run.Outcome
import BackOffice.Screen.Schema
import BackOffice.Settings
import BackOffice.Shared
import BackOffice.Source.Contents
import BackOffice.Source.Form
import BackOffice.Source.Format
import BackOffice.Source.Toml.Document
import BackOffice.Source.Toml.Scalar
import BackOffice.Source.Yaml.Cursor
import BackOffice.Source.Yaml.Document
import BackOffice.Source.Yaml.Lexer
import BackOffice.Source.Yaml.Node
import BackOffice.Source.Yaml.Scalar
import BackOffice.Source.Yaml.Tag
import BackOffice.Source.Yaml.Token
import BackOffice.Source.Yaml.Value
import BackOffice.Table.Page
import BackOffice.Table.Rows
import BackOffice.Table.Screen
import BackOffice.Text.AgeTable
import BackOffice.Text.Base64
import BackOffice.Text.Blank
import BackOffice.Text.BreakTable
import BackOffice.Text.CaseTable
import BackOffice.Text.CategoryTable
import BackOffice.Text.CharRanges
import BackOffice.Text.CharSet
import BackOffice.Text.CharTrait
import BackOffice.Text.Hex
import BackOffice.Text.LowerCase
import BackOffice.Text.ScriptTable
import BackOffice.Text.TraitTable
import BackOffice.Text.WordTable
import BackOffice.Workflow.Graph
import BackOffice.Workflow.InputExpr
import BackOffice.Workflow.Plan
import BackOffice.Workflow.Request
import BackOffice.Workflow.Step
import BackOffice.Proofs.Plan.Waves
import BackOffice.Proofs.Run.Interplay
import BackOffice.Proofs.Run.EpochProtocol
import BackOffice.Proofs.Run.GroupFlight
import BackOffice.Proofs.Run.Carry
import BackOffice.Proofs.Run.Flight
import BackOffice.Proofs.Run.ArrivalOrder
import BackOffice.Proofs.Run.Frame
import BackOffice.Proofs.Run.OneByOne
import BackOffice.Proofs.Run.OutsideReads
import BackOffice.Proofs.Run.Ledger
import BackOffice.Proofs.Run.SessionEnd
import BackOffice.Proofs.Rehearsal.Course
import BackOffice.Proofs.Rehearsal.Shifts
import BackOffice.Proofs.Rehearsal.Lanes
import BackOffice.Proofs.Permission.Cells
import BackOffice.Proofs.Permission.Toggles
import BackOffice.Proofs.Permission.Loads
import BackOffice.Proofs.Table.Requests
import BackOffice.Proofs.Rehearsal.OwnHandles
import BackOffice.Proofs.Permission.Apart
import BackOffice.Proofs.Run.Unwritten
import BackOffice.Proofs.Permission.Binding
import BackOffice.Proofs.Permission.Rollback
import BackOffice.Proofs.Run.GroupCourse
import BackOffice.Proofs.Run.Verdicts
import BackOffice.Proofs.Run.Passage
import BackOffice.Proofs.Run.Underway
import BackOffice.Proofs.Run.Returning
import BackOffice.Proofs.Run.Isolation
import BackOffice.Proofs.Run.Reports
import BackOffice.Proofs.Run.GroupTale
import BackOffice.Proofs.Run.Telling
import BackOffice.Proofs.Response.Classes
import BackOffice.Proofs.Record.Written
import BackOffice.Proofs.Workflow.WrittenForm
import BackOffice.Proofs.Screen.WrittenForm
import BackOffice.Proofs.Json.Numerals
import BackOffice.Proofs.Json.Quoted
import BackOffice.Proofs.Json.Proper
import BackOffice.Proofs.Json.RoundTrip
import BackOffice.Proofs.Config.Encodings
import BackOffice.Proofs.Response.WrittenForm
import BackOffice.Proofs.Plan.Levels
import BackOffice.Proofs.Plan.SortedLevels
import BackOffice.Proofs.Source.DeclaredOrder
import BackOffice.Proofs.Run.GroupEffect
import BackOffice.Proofs.Run.ShortCircuit
import BackOffice.Proofs.Workflow.Expressions
import BackOffice.Proofs.Run.Binding
import BackOffice.Proofs.Permission.Literals
import BackOffice.Proofs.Workflow.ScriptText
import BackOffice.Proofs.Permission.Forest
import BackOffice.Proofs.Permission.Roots
import BackOffice.Proofs.Permission.Groups
import BackOffice.Proofs.Rehearsal.LoneStep
import BackOffice.Proofs.Permission.LoneToggle
import BackOffice.Proofs.Response.ReportedStatus
import BackOffice.Proofs.Field.BlankInput
import BackOffice.Proofs.Decimal.Doubles
import BackOffice.Proofs.Field.NumberInput
import BackOffice.Proofs.Field.RequiredInput
import BackOffice.Proofs.Calendar.Days
import BackOffice.Proofs.Calendar.DayText
import BackOffice.Proofs.Field.StoredAgain
import BackOffice.Proofs.Field.ShownDate
import BackOffice.Proofs.Field.ChosenLeaves
import BackOffice.Proofs.Table.InlinePages
import BackOffice.Proofs.Table.WrittenPage
import BackOffice.Proofs.Context.Journal
import BackOffice.Proofs.Workflow.Replay
import BackOffice.Proofs.Json.TextSize
import BackOffice.Proofs.Config.Layers
import BackOffice.Proofs.Text.LowerCase
import BackOffice.Proofs.Table.Filters
import BackOffice.Proofs.Context.DotPaths
import BackOffice.Proofs.Field.DateMasks
