import LossCascade.Text.Utf8

/-!
# Comma-separated tables

A file is a sequence of records, one on a line, whose fields are divided by commas. A field may
stand between quotes, and then holds commas, line ends and, written twice, quotes. Lines without
any character are passed over, and the mark that some programs put in front of a file is dropped.
-/

namespace LossCascade.Csv

/-- Where the reader stands. -/
inductive Position where
  /-- In front of a record. -/
  | record
  /-- In front of a further field of a record. -/
  | field
  /-- Inside a field without quotes, or behind its closing quote. -/
  | plain
  /-- Inside a field between quotes. -/
  | quoted
  /-- Behind a quote that either closes the field or is the first of two. -/
  | quote
deriving DecidableEq, Repr

/-- What has been read: the records, the fields of the present record and the bytes of the present
field, each with the latest first. -/
structure Reader where
  position : Position := .record
  bytes : List UInt8 := []
  fields : List (List UInt8) := []
  records : List (List (List UInt8)) := []

namespace Reader

/-- Closes the present field. -/
def endField (r : Reader) : Reader :=
  { r with position := .field, bytes := [], fields := r.bytes.reverse :: r.fields }

/-- Closes the present field and record. -/
def endRecord (r : Reader) : Reader :=
  let r := r.endField
  { r with position := .record, fields := [], records := r.fields.reverse :: r.records }

/-- Adds a byte to the present field. -/
def push (r : Reader) (position : Position) (b : UInt8) : Reader :=
  { r with position, bytes := b :: r.bytes }

/-- Whether the byte ends a line. -/
def isLineEnd (b : UInt8) : Bool :=
  b == 10 || b == 13

/-- Takes in a byte outside quotes. -/
def unquoted (r : Reader) (b : UInt8) : Reader :=
  if b == 44 then r.endField
  else if isLineEnd b then r.endRecord
  else r.push .plain b

/-- Takes in a byte. -/
def step (r : Reader) (b : UInt8) : Reader :=
  match r.position with
  | .record =>
    if isLineEnd b then r
    else if b == 34 then { r with position := .quoted }
    else r.unquoted b
  | .field => if b == 34 then { r with position := .quoted } else r.unquoted b
  | .plain => r.unquoted b
  | .quoted => if b == 34 then { r with position := .quote } else r.push .quoted b
  | .quote => if b == 34 then r.push .quoted b else r.unquoted b

/-- The records, with the one that the end of the file closes. -/
def finish (r : Reader) : List (List (List UInt8)) :=
  (if r.position = .record then r else r.endRecord).records.reverse

end Reader

/-- The bytes behind the mark in front of a file. -/
def dropMark : List UInt8 → List UInt8
  | 0xEF :: 0xBB :: 0xBF :: rest => rest
  | bytes => bytes

/-- The records of a file as bytes. -/
def records (bytes : List UInt8) : List (List (List UInt8)) :=
  ((dropMark bytes).foldl Reader.step {}).finish

/-- The records of a file, if every field is text. -/
def read? (bytes : List UInt8) : Option (List (List String)) :=
  (records bytes).mapM fun record => record.mapM Text.ofBytes?

end LossCascade.Csv
