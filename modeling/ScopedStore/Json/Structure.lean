import ScopedStore.Json.Format

/-!
# Structures as JSON

A structure is described once, field by field in the order of its declaration, and the
description gives both directions.

**Writing.** A structure is an object of its fields, without those whose value is to be left
out.

**Reading an object.** The members are looked at in the order in which the object holds them,
and the first one that does not have the form of its field is reported; members that belong to
no field are passed over. Only then are absent fields considered, in the order of declaration:
each takes the value that it has when left out, or is reported as missing.

**Reading an array.** The items are the fields in the order of declaration. The array may end
early when all further fields can be left out.
-/

set_option autoImplicit false

namespace ScopedStore.Json

/-- One field of a structure `σ`, of type `α`: the name of its member, the form of its value, its
value in a structure, and the value that it has when it is left out, unless it has to be there. Some
values are left out when the structure is written. -/
structure Field (σ α : Type) where
  name : String
  format : Format α
  get : σ → α
  fallback : Option α
  omits : α → Bool

namespace Field

variable {σ α : Type}

/-- A field that has to be there. -/
def required (name : String) (format : Format α) (get : σ → α) : Field σ α :=
  ⟨name, format, get, none, fun _ => false⟩

/-- A field that is always written, and has a value of its own when it is left out. -/
def defaulting (name : String) (format : Format α) (get : σ → α) (fallback : α) : Field σ α :=
  ⟨name, format, get, some fallback, fun _ => false⟩

/-- A field that is left out exactly when it has its fallback value, as `omits` decides. -/
def omitting (name : String) (format : Format α) (get : σ → α) (fallback : α)
    (omits : α → Bool) : Field σ α :=
  ⟨name, format, get, some fallback, omits⟩

/-- The value of the field when it is left out. -/
def absent (field : Field σ α) : Except Fault α :=
  match field.fallback with
  | some value => .ok value
  | none => .error (.missingField field.name)

end Field

/-- The fields of a structure `σ` in the order of declaration, with what builds a value of type
`α` from them. -/
inductive Fields (σ : Type) : Type → Type 1
  | build {α : Type} (value : α) : Fields σ α
  | andThen {α β : Type} (earlier : Fields σ (β → α)) (field : Field σ β) : Fields σ α

namespace Fields

variable {σ : Type}

/-- The number of fields. -/
def count {α : Type} : Fields σ α → Nat
  | .build _ => 0
  | .andThen earlier _ => earlier.count + 1

/-- The names of the fields, in the order of declaration. -/
def names {α : Type} : Fields σ α → List String
  | .build _ => []
  | .andThen earlier field => earlier.names ++ [field.name]

/-- The members of a structure, in the order of declaration. -/
def members {α : Type} (value : σ) : Fields σ α → List (String × Json)
  | .build _ => []
  | .andThen earlier field =>
      let inside := field.get value
      if field.omits inside then earlier.members value
      else earlier.members value ++ [(field.name, field.format.write inside)]

/-- Does a member have the form of the field of its name? -/
def check {α : Type} (name : String) (value : Json) : Fields σ α → Except Fault Unit
  | .build _ => .ok ()
  | .andThen earlier field =>
      if field.name = name then (field.format.read value).map fun _ => ()
      else earlier.check name value

/-- Builds the value from the members under the names of the fields. -/
def fromMembers {α : Type} (member : String → Option Json) : Fields σ α → Except Fault α
  | .build value => .ok value
  | .andThen earlier field => do
      let make ← earlier.fromMembers member
      match member field.name with
      | some value => return make (← field.format.read value)
      | none => return make (← field.absent)

/-- Builds the value from the first items of an array, and gives the items behind them. -/
def fromItems {α : Type} (title : String) (total : Nat) (items : List Json) :
    Fields σ α → Except Fault (α × List Json)
  | .build value => .ok (value, items)
  | .andThen earlier field => do
      let (make, rest) ← earlier.fromItems title total items
      match rest, field.fallback with
      | item :: rest, _ => return (make (← field.format.read item), rest)
      | [], some value => return (make value, [])
      | [], none => throw (.tooFewItems earlier.count title total)

end Fields

/-- The description of a structure: its name in messages, and its fields in the order of
declaration. -/
structure Structure (σ : Type) where
  title : String
  fields : Fields σ σ

namespace Structure

variable {σ : Type}

/-- The form of a structure. -/
def format (description : Structure σ) : Format σ where
  write value := .ofMembers (description.fields.members value)
  read
    | .object members => do
        members.forM fun (name, value) => description.fields.check name value
        description.fields.fromMembers fun name => Entries.lookup name members
    | .array items => do
        let total := description.fields.count
        let (value, rest) ← description.fields.fromItems description.title total items
        if rest.isEmpty then return value else throw (.tooManyItems items.length)
    | other => .error (.wrongType other.found (.structured description.title))

end Structure

end ScopedStore.Json
