import Switchboard.Analysis
import Switchboard.Codec.Basic
import Switchboard.Codec.JsonMessage
import Switchboard.CommandLine.Execution
import Switchboard.CommandLine.Invocation
import Switchboard.CommandLine.Program
import Switchboard.CommandLine.Word
import Switchboard.Dispatch.File
import Switchboard.Dispatch.ImportTable
import Switchboard.Dispatch.Inspection
import Switchboard.Dispatch.Registration
import Switchboard.Document.Basic
import Switchboard.Document.PrettyJson
import Switchboard.Document.Value
import Switchboard.Document.Yaml
import Switchboard.Document.YamlScalar
import Switchboard.Event
import Switchboard.Files.Change
import Switchboard.Files.Fault
import Switchboard.Files.FileSystem
import Switchboard.Files.PathText
import Switchboard.Handler.Descriptor
import Switchboard.Handler.Diagnostic
import Switchboard.Handler.Form
import Switchboard.Handler.Shape
import Switchboard.Http.Exchange
import Switchboard.Http.Headers
import Switchboard.Http.Message
import Switchboard.Json.Bytes
import Switchboard.Json.Fault
import Switchboard.Json.NumberText
import Switchboard.Json.Record
import Switchboard.Json.RecordText
import Switchboard.Json.Skipped
import Switchboard.Json.StringText
import Switchboard.Json.Text
import Switchboard.Json.Value
import Switchboard.Logging.Directive
import Switchboard.Logging.Filter
import Switchboard.Logging.Record
import Switchboard.Logging.Settings
import Switchboard.Main
import Switchboard.NameMap
import Switchboard.Numeric.Binary
import Switchboard.Numeric.Bounded
import Switchboard.Numeric.DecimalText
import Switchboard.Numeric.Notation
import Switchboard.Numeric.Shortest
import Switchboard.Payload.Basic
import Switchboard.Payload.Collection
import Switchboard.Project.Configured
import Switchboard.Project.Fault
import Switchboard.Project.Formatter
import Switchboard.Project.Generation
import Switchboard.Project.Publication
import Switchboard.Project.Sources
import Switchboard.Proofs.AbsolutePaths
import Switchboard.Proofs.AddedGlobs
import Switchboard.Proofs.AliasCapture
import Switchboard.Proofs.AliasExpansion
import Switchboard.Proofs.Classification
import Switchboard.Proofs.ConcurrentRuns
import Switchboard.Proofs.EntryOrder
import Switchboard.Proofs.FileOrder
import Switchboard.Proofs.FilePath
import Switchboard.Proofs.FirstRejection
import Switchboard.Proofs.FreshNames
import Switchboard.Proofs.HandlerSignatures
import Switchboard.Proofs.Handlers
import Switchboard.Proofs.ImportConflicts
import Switchboard.Proofs.ImportGroups
import Switchboard.Proofs.ImportIndex
import Switchboard.Proofs.ImportLines
import Switchboard.Proofs.ImportTable
import Switchboard.Proofs.ImportedModules
import Switchboard.Proofs.ImportedNames
import Switchboard.Proofs.InjectedTypes
import Switchboard.Proofs.InspectionFrame
import Switchboard.Proofs.JsonParts
import Switchboard.Proofs.JsonText
import Switchboard.Proofs.ListingOrder
import Switchboard.Proofs.MessageRoundTrip
import Switchboard.Proofs.MessageWriting
import Switchboard.Proofs.NeededImports
import Switchboard.Proofs.PathFollowing
import Switchboard.Proofs.PathText
import Switchboard.Proofs.Places
import Switchboard.Proofs.PreludeNames
import Switchboard.Proofs.Publication
import Switchboard.Proofs.Qualification
import Switchboard.Proofs.Regeneration
import Switchboard.Proofs.RegistrationScope
import Switchboard.Proofs.RegistrationText
import Switchboard.Proofs.RenderedText
import Switchboard.Proofs.RequestHeaders
import Switchboard.Proofs.Results
import Switchboard.Proofs.Roles
import Switchboard.Proofs.RouteCount
import Switchboard.Proofs.ScopeAgreement
import Switchboard.Proofs.ScopeContents
import Switchboard.Proofs.SelfPaths
import Switchboard.Proofs.ServedCalls
import Switchboard.Proofs.ServedPaths
import Switchboard.Proofs.ServingBlock
import Switchboard.Proofs.SlotFilling
import Switchboard.Proofs.SourceListing
import Switchboard.Proofs.Spine
import Switchboard.Proofs.Staging
import Switchboard.Proofs.Surroundings
import Switchboard.Proofs.TextParts
import Switchboard.Proofs.TraitBounds
import Switchboard.Proofs.TypeNames
import Switchboard.Proofs.Utf8
import Switchboard.Sample.Datum
import Switchboard.Sample.Drawing
import Switchboard.Sample.Formatters
import Switchboard.Sample.Handlers
import Switchboard.Sample.User
import Switchboard.Scope.Basic
import Switchboard.Scope.Import
import Switchboard.Scope.Resolution
import Switchboard.Serve.Multiplexer
import Switchboard.Serve.RouteTable
import Switchboard.Serve.Setup
import Switchboard.Settings.Basic
import Switchboard.Settings.Text
import Switchboard.Source.File
import Switchboard.Source.Item
import Switchboard.Source.ItemGrammar
import Switchboard.Source.Lexer
import Switchboard.Source.Literal
import Switchboard.Source.PatternGrammar
import Switchboard.Source.Position
import Switchboard.Source.Reader
import Switchboard.Source.Spelling
import Switchboard.Source.Token
import Switchboard.Source.TypeExpr
import Switchboard.Source.TypeGrammar
import Switchboard.Text.Blank
import Switchboard.Text.CodePointRanges
import Switchboard.Text.Identifier
import Switchboard.Text.Quoted
import Switchboard.Text.UpperCase
import Switchboard.Text.Utf8
