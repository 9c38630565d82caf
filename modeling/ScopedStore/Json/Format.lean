import ScopedStore.Json.Fault

/-!
# Values as JSON

A format couples the two directions in which a type and JSON meet: how a value is written, and
what is read from a JSON value. A format is lawful when reading what was written gives the value
back; nothing is demanded of the other direction, because a value may have several spellings on
the way in.

This module has the formats of scalars, lists and maps; `ScopedStore.Json.Structure` builds the
formats of structures from them.
-/

set_option autoImplicit false

namespace ScopedStore.Json

/-- How a type is written as JSON and read from it; a JSON value that does not have the form is at
fault. -/
structure Format (α : Type) where
  write : α → Json
  read : Json → Except Fault α

namespace Format

/-- Reading what was written gives the value back. -/
def Lawful {α : Type} (format : Format α) : Prop :=
  ∀ value : α, format.read (format.write value) = .ok value

/-! ## Scalars -/

/-- A text. -/
def text : Format String where
  write := .text
  read
    | .text value => .ok value
    | other => .error (.wrongType other.found .text)

/-- An integer between two bounds, the upper one excluded. -/
def bounded (lowest limit : Int) (expected : Expected) : Format Int where
  write := .integer
  read
    | .integer value =>
        if lowest ≤ value ∧ value < limit then .ok value
        else .error (.wrongValue (.integer value) expected)
    | other => .error (.wrongType other.found expected)

/-- A signed integer of 64 bits that counts something: a natural home for versions. -/
def counter : Format Int := bounded (-Bounds.signed64) Bounds.signed64 .int64

/-- A signed integer of 64 bits. -/
def int64 : Format Int64 where
  write value := .integer value.toInt
  read value := (counter.read value).map Int64.ofInt

/-- A signed integer of 32 bits. -/
def int32 : Format Int32 where
  write value := .integer value.toInt
  read value :=
    ((bounded (-Bounds.signed32) Bounds.signed32 .int32).read value).map Int32.ofInt

/-- Any JSON value, as it is. -/
def any : Format Json where
  write value := value
  read := .ok

/-- One of finitely many named cases: a text, or an object whose only member has the name of the
case and is null. -/
def choice {α : Type} (cases : List (String × α)) (name : α → String) : Format α where
  write value := .text (name value)
  read value :=
    let named (given : String) : Except Fault α :=
      match cases.lookup given with
      | some found => .ok found
      | none => .error (.unknownCase given (cases.map (·.1)))
    match value with
    | .text given => named given
    | .object [(given, inside)] => do
        let found ← named given
        match inside with
        | .null => return found
        | other => throw (.wrongType other.found .unit)
    | .object _ => .error (.wrongValue .map .singleMember)
    | other => .error (.wrongType other.found .choice)

/-! ## Lists, maps and absent values -/

/-- A list, read from its first item on. -/
def list {α : Type} (item : Format α) : Format (List α) where
  write values := .array (values.map item.write)
  read
    | .array items => items.mapM item.read
    | other => .error (.wrongType other.found .sequence)

/-- A map from texts, read in the order of its members. -/
def map {α : Type} (value : Format α) : Format (SortedMap String α) where
  write held := .object (held.entries.map fun (name, inside) => (name, value.write inside))
  read
    | .object members => do
        let entries ← members.mapM fun (name, inside) => return (name, ← value.read inside)
        return SortedMap.ofList entries
    | other => .error (.wrongType other.found .map)

/-- A value that may be absent, written as null. -/
def optional {α : Type} (value : Format α) : Format (Option α) where
  write
    | none => .null
    | some inside => value.write inside
  read
    | .null => .ok none
    | other => (value.read other).map some

end Format

end ScopedStore.Json
