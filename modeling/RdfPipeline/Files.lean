/-!
# Files

A tree of files and directories in memory, with paths relative to its root. A path leads through
directories only; `.` and empty components stay where they are, and the parent of the root is the
root.
-/

set_option autoImplicit false

namespace RdfPipeline

namespace Files

abbrev Bytes := List UInt8

inductive Entry where
  | file (contents : Bytes)
  | directory
  deriving DecidableEq, Repr

inductive Fault where
  | notFound
  | alreadyExists
  | notADirectory
  | isADirectory
  | nameTooLong
  | containsNul
  | notUtf8
  deriving DecidableEq, Repr

def Fault.message : Fault → String
  | .notFound => "No such file or directory (os error 2)"
  | .alreadyExists => "File exists (os error 17)"
  | .notADirectory => "Not a directory (os error 20)"
  | .isADirectory => "Is a directory (os error 21)"
  | .nameTooLong => "File name too long (os error 36)"
  | .containsNul => "file name contained an unexpected NUL byte"
  | .notUtf8 => "stream did not contain valid UTF-8"

end Files

/-- Entries by the names on the way to them. The root is a directory and has no entry. -/
structure Files where
  entries : List (List String × Files.Entry)

namespace Files

def empty : Files := ⟨[]⟩

def entryAt? (files : Files) (names : List String) : Option Entry :=
  if names = [] then some .directory
  else (files.entries.find? (·.1 == names)).map (·.2)

def put (files : Files) (names : List String) (entry : Entry) : Files :=
  ⟨(names, entry) :: files.entries.filter (·.1 != names)⟩

/-! ## Paths -/

def splitNames : List Char → List (List Char)
  | [] => [[]]
  | c :: rest =>
      if c = '/' then [] :: splitNames rest
      else
        match splitNames rest with
        | [] => [[c]]
        | name :: names => (c :: name) :: names

/-- The components of a path. A slash at the end leaves an empty one. -/
def components (path : String) : List String :=
  (splitNames path.toList).map String.ofList

/-- Goes one component further from a place that has to be a directory. -/
def descend (files : Files) (place : List String) (name : String) : Except Fault (List String) :=
  match files.entryAt? place with
  | none => .error .notFound
  | some (.file _) => .error .notADirectory
  | some .directory =>
      if name = "" ∨ name = "." then .ok place
      else if name = ".." then .ok place.dropLast
      else if 255 < name.utf8ByteSize then .error .nameTooLong
      else .ok (place ++ [name])

/-- The place that a path denotes; its last component need not exist. -/
def resolve (files : Files) (path : String) : Except Fault (List String) :=
  if path.toList.contains '\x00' then .error .containsNul
  else (components path).foldlM files.descend []

/-- Whether a file or directory can be opened for reading. -/
def checkReadable (files : Files) (path : String) : Except Fault Unit := do
  let place ← files.resolve path
  match files.entryAt? place with
  | some _ => .ok ()
  | none => .error .notFound

def read (files : Files) (path : String) : Except Fault Bytes := do
  let place ← files.resolve path
  match files.entryAt? place with
  | some (.file contents) => .ok contents
  | some .directory => .error .isADirectory
  | none => .error .notFound

def decodeText (contents : Bytes) : Except Fault String :=
  match String.fromUTF8? ⟨contents.toArray⟩ with
  | some text => .ok text
  | none => .error .notUtf8

def encodeText (text : String) : Bytes :=
  text.toUTF8.toList

def readText (files : Files) (path : String) : Except Fault String := do
  decodeText (← files.read path)

/-- Writes a file, replacing what it held. Its directory has to exist, and a slash at the end asks
for a directory, which cannot be written. -/
def write (files : Files) (path : String) (contents : Bytes) : Except Fault Files := do
  if (components path).getLast? = some "" then .error .isADirectory
  let place ← files.resolve path
  match files.entryAt? place with
  | some .directory => .error .isADirectory
  | some (.file _) => .ok (files.put place (.file contents))
  | none =>
      match files.entryAt? place.dropLast with
      | some .directory => .ok (files.put place (.file contents))
      | some (.file _) => .error .notADirectory
      | none => .error .notFound

/-- Goes one component further and makes the directory if nothing is there. A file on the way is in
the way of the last component and no directory for any other. -/
def makeDirectory (files : Files) (place : List String) (name : String) (isLast : Bool) :
    Except Fault (Files × List String) := do
  let next ← files.descend place name
  match files.entryAt? next with
  | some .directory => .ok (files, next)
  | some (.file _) => .error (if isLast then .alreadyExists else .notADirectory)
  | none => .ok (files.put next .directory, next)

def makeDirectoriesFrom (files : Files) (place : List String) :
    List String → Except Fault Files
  | [] => .ok files
  | name :: rest => do
      let (files, place) ← files.makeDirectory place name rest.isEmpty
      makeDirectoriesFrom files place rest

/-- The components of the directory that holds the file of a path. -/
def parentNames (path : String) : List String :=
  ((components path).filter fun name => name ≠ "" ∧ name ≠ ".").dropLast

/-- Makes the directory of a file and all directories above it. -/
def makeParents (files : Files) (path : String) : Except Fault Files :=
  if path.toList.contains '\x00' then .error .containsNul
  else files.makeDirectoriesFrom [] (parentNames path)

end Files

end RdfPipeline
