/-!
# Documents

The values that a JSON document is made of. A number is whole or floating-point, as it is written.
The members of an object keep their order, and a name may occur more than once: what that means is
up to whoever reads the object.
-/

namespace LossCascade

/-- A value of a document. -/
inductive Json where
  | null
  | bool (b : Bool)
  | int (n : Int)
  | float (x : Float)
  | text (s : String)
  | array (items : List Json)
  | object (members : List (String × Json))
  /-- What is written correctly but stands for nothing: a number beyond every floating-point number,
  or a text with half of a surrogate pair. It may be passed over, but not read. -/
  | unreadable

namespace Json

/-- The value of a member; the first, if there are several of the name. -/
def member? (name : String) : Json → Option Json
  | object members => members.lookup name
  | _ => none

/-- A text or null. -/
def ofOption {α : Type} (f : α → Json) : Option α → Json
  | some a => f a
  | none => null

end Json

end LossCascade
