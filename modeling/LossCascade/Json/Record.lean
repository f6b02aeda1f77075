import LossCascade.Json.Basic

/-!
# Reading records

A record of named fields is written as an object or as an array of its fields in order. In an
object, fields in any order are allowed, and unknown ones are passed over, but no field may occur
twice. An array may leave out fields at its end, and may not be longer than the record.
-/

namespace LossCascade.Json

/-- The fields of a record as they are written. -/
structure Fields where
  /-- Whether the fields are written with their names. -/
  named : Bool
  /-- The fields that are written. -/
  written : List (String × Json)

/-- How a field of some kind is read. -/
abbrev Read (α : Type) := Json → Option α

/-- The fields of a record with these field names. -/
def fields? (names : List String) : Read Fields
  | object members =>
    let once := names.all fun name => (members.filter (·.1 == name)).length ≤ 1
    if once then some ⟨true, members⟩ else none
  | array items =>
    if items.length ≤ names.length then some ⟨false, names.zip items⟩ else none
  | _ => none

namespace Fields

/-- A field that must be written. -/
def required {α : Type} (f : Fields) (name : String) (read : Read α) : Option α :=
  (f.written.lookup name).bind read

/-- A field that need not be written. -/
def withDefault {α : Type} (f : Fields) (name : String) (read : Read α) (default : α) : Option α :=
  match f.written.lookup name with
  | some j => read j
  | none => some default

/-- A field that may be null, and may be left out where fields have names. -/
def nullable {α : Type} (f : Fields) (name : String) (read : Read α) : Option (Option α) :=
  match f.written.lookup name with
  | some null => some none
  | some j => (read j).map some
  | none => if f.named then some none else none

/-- A field that may be null and may be left out. -/
def optional {α : Type} (f : Fields) (name : String) (read : Read α) : Option (Option α) :=
  match f.written.lookup name with
  | some null | none => some none
  | some j => (read j).map some

end Fields

/-! ## Kinds of fields -/

/-- A text. -/
def asText : Read String
  | text s => some s
  | _ => none

/-- A floating-point number; whole ones count. -/
def asFloat : Read Float
  | float x => some x
  | int n => some (Float.ofInt n)
  | _ => none

/-- A whole number that fits a signed word of 64 bits. -/
def asInt : Read Int
  | int n => if -Int.pow 2 63 ≤ n ∧ n < Int.pow 2 63 then some n else none
  | _ => none

/-- A list of values of one kind. -/
def asList {α : Type} (read : Read α) : Read (List α)
  | array items => items.mapM read
  | _ => none

/-- A code out of a fixed set, written as a text or as an object with null under the code. -/
def asCode {α : Type} (ofCode? : String → Option α) : Read α
  | text s => ofCode? s
  | object [(name, null)] => ofCode? name
  | _ => none

end LossCascade.Json
