import BindingPress.Bytes
import BindingPress.CommandLine
import BindingPress.Conversion
import BindingPress.Decimal.Binary32
import BindingPress.Decimal.Binary64
import BindingPress.Decimal.Shortest
import BindingPress.Descriptor
import BindingPress.Descriptor.Decode
import BindingPress.Descriptor.GivenOption
import BindingPress.Descriptor.Kind
import BindingPress.Descriptor.Schema
import BindingPress.Descriptor.Standard
import BindingPress.Doc
import BindingPress.Error
import BindingPress.FileSource
import BindingPress.Generation
import BindingPress.Json.Document
import BindingPress.Json.Token
import BindingPress.Main
import BindingPress.Model.Assembly
import BindingPress.Model.Basic
import BindingPress.Model.Resolution
import BindingPress.Model.View
import BindingPress.Naming.Identifier
import BindingPress.Naming.Initialisms
import BindingPress.Naming.Token
import BindingPress.Parameters
import BindingPress.Placement
import BindingPress.Pool.Basic
import BindingPress.Pool.Build
import BindingPress.Pool.Default
import BindingPress.Pool.FieldValue
import BindingPress.Pool.Given
import BindingPress.Pool.Options
import BindingPress.Pool.Reading
import BindingPress.Pool.Resolution
import BindingPress.Pool.Rules
import BindingPress.Pool.Standard
import BindingPress.Pool.Symbol
import BindingPress.Proofs.Assembly
import BindingPress.Proofs.Casing
import BindingPress.Proofs.Correspondence
import BindingPress.Proofs.Documentation
import BindingPress.Proofs.Failure
import BindingPress.Proofs.Generation
import BindingPress.Proofs.Parts
import BindingPress.Proofs.Payload
import BindingPress.Proofs.Places
import BindingPress.Proofs.PlainWords
import BindingPress.Proofs.PluginName
import BindingPress.Proofs.Segments
import BindingPress.Proofs.Traversal
import BindingPress.Response
import BindingPress.Settings
import BindingPress.Template.Expr
import BindingPress.Template.Filter
import BindingPress.Template.Layout
import BindingPress.Template.Library
import BindingPress.Template.Path
import BindingPress.Template.Reader
import BindingPress.Template.Render
import BindingPress.Template.Value
import BindingPress.Template.Whitespace
import BindingPress.Text.Alphabetic
import BindingPress.Text.Blank
import BindingPress.Text.Case
import BindingPress.Text.CaseMap
import BindingPress.Text.Cluster
import BindingPress.Text.ClusterClass
import BindingPress.Text.Numeric
import BindingPress.Text.Parts
import BindingPress.Text.Span
import BindingPress.Wire.Message
import BindingPress.Wire.Record
import BindingPress.Wire.Varint
import BindingPress.Proofs.Undescribed
import BindingPress.Proofs.Readers
import BindingPress.Proofs.Interpretation
import BindingPress.Proofs.RawFiles
import BindingPress.Proofs.Response
import BindingPress.Proofs.GivenOptions
import BindingPress.Proofs.MadePool
import BindingPress.Proofs.OptionBytes
import BindingPress.Proofs.CustomOptions
import BindingPress.Proofs.Presentation
import BindingPress.Proofs.Outcomes
import BindingPress.Proofs.TagScan
import BindingPress.Proofs.BlockSpacing
import BindingPress.Proofs.LetterCase
import BindingPress.Proofs.SnakeCase
import BindingPress.Proofs.Composition
import BindingPress.Proofs.FieldTypes
import BindingPress.Proofs.Styles
import BindingPress.Proofs.Vocabulary
import BindingPress.Proofs.LastEntry
import BindingPress.Proofs.LastSettings
import BindingPress.Proofs.TableMembers
import BindingPress.Proofs.Cleaning
import BindingPress.Proofs.UsableComments
import BindingPress.Proofs.Stripping
import BindingPress.Proofs.Indentation
import BindingPress.Proofs.LongestCut
import BindingPress.Proofs.CaseBoundaries
import BindingPress.Proofs.TagGrammar
import BindingPress.Proofs.SharedPaths
import BindingPress.Proofs.CleanedLines
