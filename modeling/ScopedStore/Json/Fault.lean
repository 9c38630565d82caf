import ScopedStore.Json.Printer
import ScopedStore.Text.Printable

/-!
# Why a JSON value does not have the expected form

A fault names what was found and what was expected in its place; it never carries the value
itself beyond a number, a truth value or a text.
-/

set_option autoImplicit false

namespace ScopedStore.Json

open Decimal

/-- What stands where something else was expected. -/
inductive Found
  | null
  | bool (value : Bool)
  | integer (value : Int)
  | double (value : Double)
  | text (value : String)
  | sequence
  | map
  deriving DecidableEq, Repr

/-- What a value is when it is not what was expected. -/
def found : Json → Found
  | .null => .null
  | .bool value => .bool value
  | .integer value => .integer value
  | .double value => .double value
  | .text value => .text value
  | .array _ => .sequence
  | .object _ => .map

namespace Found

/-- The words for what was found. -/
def describe : Found → String
  | null => "null"
  | bool value => s!"boolean `{value}`"
  | integer value => s!"integer `{value}`"
  | double value => "floating point `" ++ String.ofList (value.render numberLayout) ++ "`"
  | text value => "string " ++ Text.quoted value
  | sequence => "sequence"
  | map => "map"

end Found

/-- What was expected of a value. A structure is known by its name. One of several named cases is a
text or an object with one member (`choice`); the object of such a case is `singleMember`. -/
inductive Expected
  | text
  | int32
  | int64
  | sequence
  | map
  | unit
  | structured (title : String)
  | choice
  | singleMember
  deriving DecidableEq, Repr

/-- The words for what was expected. -/
def Expected.describe : Expected → String
  | text => "a string"
  | int32 => "i32"
  | int64 => "i64"
  | sequence => "a sequence"
  | map => "a map"
  | unit => "unit"
  | structured title => "struct " ++ title
  | choice => "string or map"
  | singleMember => "map with a single key"

/-- Why a value does not have the expected form. A value of the right type may be one that is not
allowed (`wrongValue`), and an array in the place of a structure may end before that is complete, or
go on behind its last member. -/
inductive Fault
  | wrongType (found : Found) (expected : Expected)
  | wrongValue (found : Found) (expected : Expected)
  | missingField (name : String)
  | unknownCase (name : String) (cases : List String)
  | tooFewItems (length : Nat) (title : String) (fields : Nat)
  | tooManyItems (length : Nat)
  | notText (name : String)
  | unknownKind (tag : String)
  deriving DecidableEq, Repr

/-- The cases that were open, in words. -/
def describeCases (cases : List String) : String :=
  let named := cases.map fun name => "`" ++ name ++ "`"
  match named with
  | [first, second] => s!"{first} or {second}"
  | _ => "one of " ++ String.intercalate ", " named

/-- The message of a fault. -/
def Fault.message : Fault → String
  | wrongType found expected =>
      s!"invalid type: {found.describe}, expected {expected.describe}"
  | wrongValue found expected =>
      s!"invalid value: {found.describe}, expected {expected.describe}"
  | missingField name => s!"missing field `{name}`"
  | unknownCase name cases => s!"unknown variant `{name}`, expected {describeCases cases}"
  | tooFewItems length title fields =>
      s!"invalid length {length}, expected struct {title} with {fields} elements"
  | tooManyItems length => s!"invalid length {length}, expected fewer elements in array"
  | notText name => s!"`{name}` must be a string"
  | unknownKind tag => "unknown object type: " ++ Text.quoted tag

end ScopedStore.Json
