import RdfPipeline.Builtins
import RdfPipeline.Pipeline.Json
import RdfPipeline.Pipeline.Run
import RdfPipeline.Proofs.Pipeline.Trace
import RdfPipeline.Proofs.Pipeline.CycleErrors
import RdfPipeline.Proofs.Shape.Satisfaction
import RdfPipeline.Proofs.Pipeline.DataFlow
import RdfPipeline.Proofs.Pipeline.Gate
import RdfPipeline.Proofs.Pipeline.Chaining
import RdfPipeline.Proofs.Pipeline.DryRun
import RdfPipeline.Proofs.Operation.FileIndependence
import RdfPipeline.Proofs.Operation.GraphNumbers
import RdfPipeline.Proofs.Shape.NestingBound
import RdfPipeline.Proofs.Pipeline.DeclarationOrder
import RdfPipeline.Proofs.Shape.Enumeration
import RdfPipeline.Proofs.Shape.CompilationOrder
import RdfPipeline.Proofs.Shape.Closure
import RdfPipeline.Proofs.Shape.Provenance
import RdfPipeline.Proofs.Rdf.IriCharacters
import RdfPipeline.Proofs.Rdf.Validity
import RdfPipeline.Proofs.Rdf.Tokens
import RdfPipeline.Proofs.Rdf.RoundTrip
import RdfPipeline.Proofs.Files
import RdfPipeline.Proofs.Operation.WrittenGraph
import RdfPipeline.Proofs.Registry
import RdfPipeline.Proofs.Mapping.Subject
import RdfPipeline.Proofs.Stream.SingleConsumer
import RdfPipeline.Proofs.Mapping.Composition
import RdfPipeline.Proofs.Decimal.Rounding
import RdfPipeline.Proofs.Json.Structure
import RdfPipeline.Proofs.Value.Conversion
import RdfPipeline.Proofs.Json.RoundTrip
import RdfPipeline.Proofs.Pipeline.RoundTrip
import RdfPipeline.Proofs.Pipeline.Resolution
import RdfPipeline.Proofs.Stream.Interruption
import RdfPipeline.Proofs.Pipeline.Metrics
import RdfPipeline.Proofs.Template.Parsing
import RdfPipeline.Proofs.Template.Rendering
import RdfPipeline.Proofs.Template.ValueEncoding
import RdfPipeline.Proofs.Rdf.Collection
import RdfPipeline.Proofs.Shape.PathEncoding
import RdfPipeline.Proofs.Shape.PathReading
import RdfPipeline.Proofs.Shape.PathSpine
import RdfPipeline.Proofs.Shape.PathText
import RdfPipeline.Proofs.Shape.ReportGraph
import RdfPipeline.Proofs.Shape.Verdict
import RdfPipeline.Proofs.Shape.Routes
import RdfPipeline.Proofs.Mapping.RowNumbers
import RdfPipeline.Proofs.Rdf.LexicalForms
import RdfPipeline.Proofs.Rdf.NumberReading
import RdfPipeline.Proofs.Mapping.ScalarObjects
import RdfPipeline.Proofs.Decimal.Nearest
import RdfPipeline.Proofs.Decimal.Position
import RdfPipeline.Proofs.Shape.IntegerOrder
import RdfPipeline.Proofs.Mapping.Progress
import RdfPipeline.Proofs.Source.ColumnNames
import RdfPipeline.Proofs.Source.JsonRoutes
import RdfPipeline.Proofs.Decimal.Integer
import RdfPipeline.Proofs.Value.Inference
import RdfPipeline.Proofs.Shape.PathGrammar
import RdfPipeline.Proofs.Template.Defaults
import RdfPipeline.Proofs.Template.Expansion
import RdfPipeline.Proofs.Shape.CollectionReading
import RdfPipeline.Proofs.Pipeline.Defaults
import RdfPipeline.Proofs.Value.Integers
