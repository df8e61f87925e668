import RdfPipeline.FileOutput
import RdfPipeline.Mapping.Operation
import RdfPipeline.Registry
import RdfPipeline.Shape.Operation
import RdfPipeline.Source.Csv
import RdfPipeline.Source.JsonRecords
import RdfPipeline.Source.RdfDocument

/-!
# The built-in operations
-/

set_option autoImplicit false

namespace RdfPipeline

def builtins (config : Config) : List Operation :=
  [ Source.Csv.operation, Source.JsonRecords.operation, Source.RdfDocument.operation,
    Mapping.operation config, Shape.operation config, FileOutput.operation ]

def Registry.withBuiltins (config : Config) : Registry :=
  Registry.empty.registerAll (builtins config)

end RdfPipeline
