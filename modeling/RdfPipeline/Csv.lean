import RdfPipeline.Error
import RdfPipeline.Files

/-!
# CSV

Rows of fields in bytes. A carriage return or a line feed ends a row, and rows without a single
byte are passed over. A field that starts with a quote runs to the next lone quote, and two quotes
in it stand for one; what follows the closing quote up to the end of the field belongs to it.
-/

set_option autoImplicit false

namespace RdfPipeline.Csv

open Files (Bytes)

def quote : UInt8 := 34

def isTerminator (byte : UInt8) : Bool :=
  byte == 13 || byte == 10

/-- Where the reader stands. -/
inductive Place where
  /-- Before the first byte of a row. -/
  | row
  /-- Before the first byte of a field. -/
  | field
  | unquoted
  | quoted
  /-- Behind a quote in a quoted field. -/
  | closing
  deriving DecidableEq, Repr

inductive Move where
  | skip
  /-- The byte belongs to the field. -/
  | keep (place : Place)
  /-- The byte is a mark and belongs to no field. -/
  | drop (place : Place)
  | endField
  | endRow
  deriving DecidableEq, Repr

def moveUnquoted (delimiter byte : UInt8) : Move :=
  if byte = delimiter then .endField
  else if isTerminator byte then .endRow
  else .keep .unquoted

def moveField (delimiter byte : UInt8) : Move :=
  if byte = quote then .drop .quoted else moveUnquoted delimiter byte

def move (delimiter : UInt8) (place : Place) (byte : UInt8) : Move :=
  match place with
  | .row => if isTerminator byte then .skip else moveField delimiter byte
  | .field => moveField delimiter byte
  | .unquoted => moveUnquoted delimiter byte
  | .quoted => if byte = quote then .drop .closing else .keep .quoted
  | .closing => if byte = quote then .keep .quoted else moveUnquoted delimiter byte

/-- Reads the rows ahead. `current` and `done` hold what the row has so far, latest first. -/
def readRows (delimiter : UInt8) (place : Place) (current : Bytes) (done : List Bytes) :
    Bytes → List (List Bytes)
  | [] => if place = .row then [] else [(current.reverse :: done).reverse]
  | byte :: rest =>
      match move delimiter place byte with
      | .skip => readRows delimiter place current done rest
      | .keep next => readRows delimiter next (byte :: current) done rest
      | .drop next => readRows delimiter next current done rest
      | .endField => readRows delimiter .field [] (current.reverse :: done) rest
      | .endRow => (current.reverse :: done).reverse :: readRows delimiter .row [] [] rest

/-- Drops the mark that some editors put in front of UTF-8 texts. -/
def dropMark : Bytes → Bytes
  | 0xEF :: 0xBB :: 0xBF :: rest => rest
  | bytes => bytes

def rows (delimiter : UInt8) (document : Bytes) : List (List Bytes) :=
  readRows delimiter .row [] [] (dropMark document)

/-- The texts of a row, all of whose fields have to be UTF-8. -/
def decodeRow (row : List Bytes) : Except String (List String) :=
  (row.mapM Files.decodeText).mapError fun _ => TextFormat.csv.complaint

end RdfPipeline.Csv
