import RdfPipeline.Operation.Basic

/-!
# Input of sources

A source reads the file that a parameter names, or else the text that another one holds.
-/

set_option autoImplicit false

namespace RdfPipeline.Source

inductive Input where
  | file (path : String)
  | inline (text : String)
  deriving DecidableEq, Repr

def inputSpecs (file content : String) : List ParameterSpec :=
  [.optional "filePath" .string file, .optional "content" .string content]

/-- The input of an invocation. A file comes first and has to exist. -/
def openInput (operation : String) (context : OperationContext) : Activity Input := do
  match context.nonBlankText? "filePath" with
  | some path =>
      match (← Activity.host).files.checkReadable path with
      | .ok () => return .file path
      | .error fault =>
          throw (.ofOperation operation ("Cannot open '" ++ path ++ "': " ++ fault.message))
  | none =>
      match context.text? "content" with
      | some text => return .inline text
      | none => throw (.ofOperation operation "Either 'filePath' or 'content' must be provided")

/-- The bytes of an input as the files are now. -/
def Input.read (files : Files) : Input → Except Files.Fault Files.Bytes
  | .file path => files.read path
  | .inline text => .ok (Files.encodeText text)

/-- A feed whose items are decoded from an input; a file is read when they are asked for. -/
def Input.feed (decode : Except Files.Fault Files.Bytes → Stream.Supply) : Input → Stream.Feed
  | .file path => .unread path decode
  | .inline text => .ready (decode (.ok (Files.encodeText text)))

def readInputText (operation : String) (context : OperationContext) : Activity String := do
  let input ← openInput operation context
  let host ← Activity.host
  match (input.read host.files).bind Files.decodeText with
  | .ok text => return text
  | .error fault => throw (.ofOperation operation ("Cannot read input: " ++ fault.message))

/-- The result of a source whose records come from a feed that heeds cancellation. -/
def streamResult (feed : Stream.Feed) : Activity OperationResult := do
  return .ofStream (← Activity.openStream (.watching feed))

end RdfPipeline.Source
