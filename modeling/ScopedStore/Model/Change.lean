import ScopedStore.Model.Record

/-!
# Changes

A change tells what became of one object: it was written, and the change carries the object as
it is now, or it was deleted, and the change carries its address alone.

On the wire a change is one flat object: the kind of change, the tag and the id of the object,
and, for a written object, its own fields. The tag and the id of the address win over fields of
the same names. Reading considers the kind of change first, then the tag, then the id, and only
for a written object the fields.
-/

set_option autoImplicit false

namespace ScopedStore

open Json (Fault)

/-- What was done to an object. -/
inductive Action
  | update
  | delete
  deriving DecidableEq, Repr, Inhabited

namespace Action

/-- The name of an action on the wire. -/
def name : Action → String
  | update => "update"
  | delete => "delete"

/-- An action as JSON is its name. -/
def format : Json.Format Action := .choice [("update", update), ("delete", delete)] name

end Action

/-- What became of the object at an address: what was done, and the object as it is now. -/
structure Change where
  action : Action
  ref : Ref
  record : Option Record
  deriving DecidableEq, Inhabited

namespace Change

/-- The change of an object that was written. -/
def updated (record : Record) : Change := ⟨.update, record.ref, some record⟩

/-- The change of an object that was deleted. -/
def deleted (ref : Ref) : Change := ⟨.delete, ref, none⟩

/-- Was the object deleted? -/
def isDelete (change : Change) : Bool := change.action == .delete

/-- The changes that operations of the store produce. -/
inductive WellFormed : Change → Prop
  | updated (record : Record) : WellFormed (.updated record)
  | deleted (ref : Ref) : WellFormed (.deleted ref)

/-! ## On the wire -/

/-- The name of the member that holds the kind of change. -/
def actionMember : String := "updatetype"

/-- The name of the member that holds the id of the object. -/
def idMember : String := "oid"

/-- The change on the wire. -/
def write (change : Change) : Json :=
  let carried := match change.action, change.record with
    | .update, some record => record.members
    | _, _ => []
  .object <|
    Entries.insert idMember (.text change.ref.id) <|
    Entries.insert Record.kindMember (.text change.ref.kind.tag) <|
    Entries.insert actionMember (Action.format.write change.action) carried

/-- A member that has to be a text. -/
def readText (name : String) (members : List (String × Json)) : Except Fault String :=
  match Entries.lookup name members with
  | some (.text value) => .ok value
  | some _ => .error (.notText name)
  | none => .error (.missingField name)

/-- Reads a change from the wire. -/
def read : Json → Except Fault Change
  | .object members => do
      let action ← match Entries.lookup actionMember members with
        | some value => Action.format.read value
        | none => throw (.missingField actionMember)
      let tag ← readText Record.kindMember members
      let kind ← match Kind.ofTag? tag with
        | some kind => pure kind
        | none => throw (.unknownKind tag)
      let ref : Ref := ⟨kind, ← readText idMember members⟩
      match action with
      | .delete => return .deleted ref
      | .update =>
          let record ← Record.read kind (.object (Entries.erase actionMember members))
          return ⟨.update, ref, some record⟩
  | other => .error (.wrongType other.found .map)

/-- Changes as JSON. -/
def format : Json.Format Change := ⟨write, read⟩

end Change

end ScopedStore
