import RelationalModels.OrderedMap
import RelationalModels.Text.Cut
import RelationalModels.Text.Ranges
import RelationalModels.Text.CaseClass
import RelationalModels.Text.CaseTable
import RelationalModels.Text.Case
import RelationalModels.Text.Blank
import RelationalModels.Text.DigitTable
import RelationalModels.Text.Digit
import RelationalModels.Text.WordTable
import RelationalModels.Text.Word
import RelationalModels.Text.HiddenTable
import RelationalModels.Text.Shown
import RelationalModels.Text.Percent
import RelationalModels.Text.Utf8
import RelationalModels.Decimal.Binary64
import RelationalModels.Decimal.Shortest
import RelationalModels.Decimal.Numeral
import RelationalModels.Decimal.AttributeNumeral
import RelationalModels.Decimal.NumeralError
import RelationalModels.Value
import RelationalModels.Value.Number
import RelationalModels.Value.Shown
import RelationalModels.Json.StringBody
import RelationalModels.Json.Reader
import RelationalModels.Json.Writer
import RelationalModels.Validation.Issue
import RelationalModels.Validation.Validated
import RelationalModels.Validation.Check
import RelationalModels.Model.FieldType
import RelationalModels.Model.Attributes
import RelationalModels.Model.Error
import RelationalModels.Model.Field
import RelationalModels.Model.Definition
import RelationalModels.Model.File
import RelationalModels.Naming
import RelationalModels.Schema.Column
import RelationalModels.Schema.Table
import RelationalModels.Schema.Compile
import RelationalModels.Query.Plan
import RelationalModels.Query.Resolve
import RelationalModels.Service.Failure
import RelationalModels.Service.Service
import RelationalModels.Service.Recording
import RelationalModels.Service.Session
import RelationalModels.Sql.Error
import RelationalModels.Sql.ColumnType
import RelationalModels.Sql.Identifier
import RelationalModels.Sql.Registry
import RelationalModels.Sql.CreateTable
import RelationalModels.Sql.SelectEntry
import RelationalModels.Sql.Select
import RelationalModels.Sql.Acceptance
import RelationalModels.Sql.Backend
import RelationalModels.Sql.Executor
import RelationalModels.Setup.Settings
import RelationalModels.Setup.Logging
import RelationalModels.Setup.DatabaseUrl
import RelationalModels.Setup.DatabaseDriver
import RelationalModels.Setup.ConnectionParameters
import RelationalModels.Setup.ConnectionPool
import RelationalModels.Setup.EngineError
import RelationalModels.Setup.Engine
import RelationalModels.Setup.Collaborators
import RelationalModels.Proofs.Texts
import RelationalModels.Proofs.Route
import RelationalModels.Proofs.Projection
import RelationalModels.Proofs.Qualification
import RelationalModels.Proofs.Compilation
import RelationalModels.Proofs.Agreement
import RelationalModels.Proofs.Evaluation
import RelationalModels.Proofs.OptionalRelations
import RelationalModels.Proofs.Labels
import RelationalModels.Proofs.FromClause
import RelationalModels.Proofs.Partition
import RelationalModels.Proofs.References
import RelationalModels.Proofs.Junctions
import RelationalModels.Proofs.TableNames
import RelationalModels.Proofs.ConstraintNames
import RelationalModels.Proofs.Building
import RelationalModels.Proofs.Demands
import RelationalModels.Proofs.Obstacles
import RelationalModels.Proofs.Locality
import RelationalModels.Proofs.Templates
import RelationalModels.Proofs.QueryLocality
import RelationalModels.Proofs.Depth
import RelationalModels.Proofs.Registration
import RelationalModels.Proofs.Rendering
import RelationalModels.Proofs.Orchestration
import RelationalModels.Proofs.Surfacing
import RelationalModels.Proofs.Parameters
import RelationalModels.Proofs.Quoting
import RelationalModels.Proofs.Overrides
import RelationalModels.Proofs.PhysicalNames
import RelationalModels.Proofs.SelectRoundTrip
import RelationalModels.Proofs.CurrentValues
import RelationalModels.Proofs.RefusedTables
import RelationalModels.Proofs.Attempts
import RelationalModels.Proofs.Precedence
import RelationalModels.Proofs.Fragments
import RelationalModels.Proofs.Numerals
import RelationalModels.Proofs.RelationDefaults
import RelationalModels.Proofs.Utf8
import RelationalModels.Proofs.JsonGrammar
import RelationalModels.Proofs.JsonTokens
import RelationalModels.Proofs.JsonOutcomes
import RelationalModels.Proofs.JsonReading
import RelationalModels.Proofs.Loading
