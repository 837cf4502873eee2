import SqlBuilder.Condition.Basic
import SqlBuilder.Condition.Clause
import SqlBuilder.Condition.Filter
import SqlBuilder.Database.Basic
import SqlBuilder.Database.Config
import SqlBuilder.Database.Workbench
import SqlBuilder.Decimal.Binary
import SqlBuilder.Decimal.Layout
import SqlBuilder.Decimal.Shortest
import SqlBuilder.Dialect.Basic
import SqlBuilder.Dialect.Bundled
import SqlBuilder.Dialect.Change
import SqlBuilder.Dialect.Definition
import SqlBuilder.Dialect.Query
import SqlBuilder.Engine.Act
import SqlBuilder.Engine.Basic
import SqlBuilder.Engine.Recorder
import SqlBuilder.Engine.Remap
import SqlBuilder.Error
import SqlBuilder.Json.Basic
import SqlBuilder.Json.Failure
import SqlBuilder.Json.Reader
import SqlBuilder.Monitor.Event
import SqlBuilder.Monitor.Hook
import SqlBuilder.Monitor.Journal
import SqlBuilder.Monitor.Part
import SqlBuilder.Monitor.SqlLog
import SqlBuilder.Monitor.Stats
import SqlBuilder.Operator
import SqlBuilder.Register
import SqlBuilder.Schema
import SqlBuilder.Statement.Assignment
import SqlBuilder.Statement.Basic
import SqlBuilder.Statement.Draft
import SqlBuilder.Statement.KeyedAssignment
import SqlBuilder.Statement.Select
import SqlBuilder.Statement.SlotMap
import SqlBuilder.Text.Blank
import SqlBuilder.Text.Mark
import SqlBuilder.Text.Quoted
import SqlBuilder.Text.Ranges
import SqlBuilder.Text.Shorten
import SqlBuilder.Text.Template
import SqlBuilder.Text.Unassigned
import SqlBuilder.Text.Visible
import SqlBuilder.Text.Within
import SqlBuilder.Value.Basic
import SqlBuilder.Value.Kind
import SqlBuilder.Value.Printer
import SqlBuilder.Proofs.Overwrite
import SqlBuilder.Proofs.Placement
import SqlBuilder.Proofs.ClosedForm
import SqlBuilder.Proofs.Binding
import SqlBuilder.Proofs.Bundled
import SqlBuilder.Proofs.ClauseGrammar
import SqlBuilder.Proofs.ClauseReading
import SqlBuilder.Proofs.FilterCalls
import SqlBuilder.Proofs.FilterText
import SqlBuilder.Proofs.ForeignColumn
import SqlBuilder.Proofs.LastValues
import SqlBuilder.Proofs.PlainStatements
import SqlBuilder.Proofs.UpsertSlots
import SqlBuilder.Proofs.Watched
import SqlBuilder.Proofs.EngineCalls
import SqlBuilder.Proofs.RequestTraces
import SqlBuilder.Proofs.Placeholders
import SqlBuilder.Proofs.Noninterference
import SqlBuilder.Proofs.Occurrences
import SqlBuilder.Proofs.PrimaryKey
import SqlBuilder.Proofs.CallTraces
import SqlBuilder.Proofs.HookProtocol
import SqlBuilder.Proofs.ListedNames
import SqlBuilder.Proofs.SelectClauses
import SqlBuilder.Proofs.DefinitionReading
import SqlBuilder.Proofs.QueryReading
import SqlBuilder.Proofs.ScopedSetters
import SqlBuilder.Proofs.FanOut
import SqlBuilder.Proofs.GroupedHooks
import SqlBuilder.Proofs.Untouched
import SqlBuilder.Proofs.CompiledCounts
import SqlBuilder.Proofs.Pages
import SqlBuilder.Proofs.PlaceholderCounts
import SqlBuilder.Proofs.CounterReadings
import SqlBuilder.Proofs.GivenValues
import SqlBuilder.Proofs.TypedArguments
import SqlBuilder.Proofs.Shortening
