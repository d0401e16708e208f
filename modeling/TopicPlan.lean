import TopicPlan.Command.Arguments
import TopicPlan.Command.Invocation
import TopicPlan.Command.Report
import TopicPlan.Data.Calendar
import TopicPlan.Data.Check
import TopicPlan.Data.Value
import TopicPlan.EngineConfig
import TopicPlan.Format
import TopicPlan.Json.Basic
import TopicPlan.Json.Reader
import TopicPlan.Main
import TopicPlan.Notice
import TopicPlan.Number.Arithmetic
import TopicPlan.Number.Binary64
import TopicPlan.Number.Decimal
import TopicPlan.Number.Numeral
import TopicPlan.Number.Power
import TopicPlan.OrderedMap
import TopicPlan.Proofs.Abbreviations
import TopicPlan.Proofs.AvroDecoding
import TopicPlan.Proofs.AvroNames
import TopicPlan.Proofs.Checks
import TopicPlan.Proofs.ClauseValidation
import TopicPlan.Proofs.DeclaredTopics
import TopicPlan.Proofs.DefaultFormats
import TopicPlan.Proofs.DistinctFields
import TopicPlan.Proofs.Encodability
import TopicPlan.Proofs.Encoding
import TopicPlan.Proofs.FaultLogic
import TopicPlan.Proofs.GrammarBounds
import TopicPlan.Proofs.GrammarRules
import TopicPlan.Proofs.GrammarSoundness
import TopicPlan.Proofs.GraphFaults
import TopicPlan.Proofs.Independence
import TopicPlan.Proofs.Interruptions
import TopicPlan.Proofs.JsonFiles
import TopicPlan.Proofs.JsonLimits
import TopicPlan.Proofs.JsonProperties
import TopicPlan.Proofs.KeptTexts
import TopicPlan.Proofs.LeadingWords
import TopicPlan.Proofs.LetterCase
import TopicPlan.Proofs.LexicalFaults
import TopicPlan.Proofs.Merging
import TopicPlan.Proofs.MessageNumbers
import TopicPlan.Proofs.MissingTopics
import TopicPlan.Proofs.NodeFaults
import TopicPlan.Proofs.NumberCuts
import TopicPlan.Proofs.Numerals
import TopicPlan.Proofs.Omissions
import TopicPlan.Proofs.OrderedMaps
import TopicPlan.Proofs.OverlongNumerals
import TopicPlan.Proofs.Placeholders
import TopicPlan.Proofs.PlannedTests
import TopicPlan.Proofs.Preparation
import TopicPlan.Proofs.Productions
import TopicPlan.Proofs.PropertyValues
import TopicPlan.Proofs.Provisioning
import TopicPlan.Proofs.Queries
import TopicPlan.Proofs.Readback
import TopicPlan.Proofs.Readings
import TopicPlan.Proofs.ReferenceFree
import TopicPlan.Proofs.Registrations
import TopicPlan.Proofs.Rendering
import TopicPlan.Proofs.Resolution
import TopicPlan.Proofs.Results
import TopicPlan.Proofs.RoundTrip
import TopicPlan.Proofs.Runs
import TopicPlan.Proofs.SchemaPosting
import TopicPlan.Proofs.TestFiles
import TopicPlan.Proofs.TopicCreation
import TopicPlan.Proofs.TopicCriterion
import TopicPlan.Proofs.UpperCase
import TopicPlan.Proofs.ValueColumns
import TopicPlan.Proofs.WellFormedness
import TopicPlan.Proofs.Wrapping
import TopicPlan.Proofs.WrittenDocuments
import TopicPlan.Proofs.WrittenTexts
import TopicPlan.Provision.Cluster
import TopicPlan.Provision.Demand
import TopicPlan.Provision.Registry
import TopicPlan.Schema.Avro
import TopicPlan.Schema.Error
import TopicPlan.Schema.JsonSchema
import TopicPlan.Schema.Protobuf
import TopicPlan.Schema.Value
import TopicPlan.Serde
import TopicPlan.Sql.Catalog
import TopicPlan.Sql.Classification
import TopicPlan.Sql.DataType
import TopicPlan.Sql.Grammar
import TopicPlan.Sql.Lexer
import TopicPlan.Sql.Literal
import TopicPlan.Sql.Properties
import TopicPlan.Sql.Script
import TopicPlan.Sql.Statement
import TopicPlan.Sql.Token
import TopicPlan.Suite.Definition
import TopicPlan.Suite.Expansion
import TopicPlan.Suite.File
import TopicPlan.Suite.Name
import TopicPlan.Text.Base64
import TopicPlan.Text.Blank
import TopicPlan.Text.Case
import TopicPlan.Text.CaseTable
import TopicPlan.Text.Codes
import TopicPlan.Text.Numeral
import TopicPlan.Text.Printable
import TopicPlan.Text.Quoted
import TopicPlan.Text.Utf8
import TopicPlan.Topic.Basic
import TopicPlan.Topic.Collection
import TopicPlan.Topic.Error
import TopicPlan.Topic.Inference
import TopicPlan.Yaml.Fault
import TopicPlan.Yaml.Graph
import TopicPlan.Yaml.Lexer
import TopicPlan.Yaml.Object
import TopicPlan.Yaml.Reader
import TopicPlan.Yaml.Scalar
import TopicPlan.Yaml.Tag
import TopicPlan.Yaml.Time
import TopicPlan.Yaml.Token
import TopicPlan.Yaml.Typed
