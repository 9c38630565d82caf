import ScopedStore.Json.Value

/-!
# Looking into JSON values

A value is taken for what it is expected to be, and what is not there, or is something else, is
taken for nothing: an empty text, zero, an empty list, false.
-/

set_option autoImplicit false

namespace ScopedStore.Json

/-- The member of an object under a name; what is not there is null. -/
def field (value : Json) (name : String) : Json := (value.member? name).getD .null

/-- The text that a value is, if it is one. -/
def text? : Json → Option String
  | .text value => some value
  | _ => none

/-- The text that a value is, or the empty one. -/
def asText (value : Json) : String := value.text?.getD ""

/-- The items of an array, or none. -/
def items : Json → List Json
  | .array items => items
  | _ => []

/-- The members of an object, or none. -/
def members : Json → List (String × Json)
  | .object members => members
  | _ => []

/-- The text under a name, or the empty one. -/
def textAt (value : Json) (name : String) : String := (value.field name).asText

/-- The signed integer of 64 bits under a name, or zero. -/
def integerAt (value : Json) (name : String) : Int :=
  match value.field name with
  | .integer number => if number < Bounds.signed64 then number else 0
  | _ => 0

/-- The items of the array under a name, or none. -/
def itemsAt (value : Json) (name : String) : List Json := (value.field name).items

/-- Is there a true under a name? -/
def trueAt (value : Json) (name : String) : Bool := value.field name == .bool true

end ScopedStore.Json
