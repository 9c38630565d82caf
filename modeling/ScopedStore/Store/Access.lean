import ScopedStore.Store.Handle

/-!
# Reading and writing objects

Objects are read and written through the handle of a transaction. Every successful write of a row
records one change in the innermost scope, and a write that fails leaves the handle as it was,
so a writing operation gives a new handle only when it succeeds.

The version column of a row is authoritative: the version inside a body is replaced by it when
the body is read. An inserted object has version 1, and an update expects the version of the
caller, led back by what the handle has undone, and moves the object to the next one.

A version is a signed integer of 64 bits. What comes of adding one to the greatest of them depends
on how the program was built: it starts again from the least one, or the program stops. So an
update is described for a version that has a next one (`HasNextVersion`).
-/

set_option autoImplicit false

namespace ScopedStore

/-- The version has a next one in 64 bits. -/
def HasNextVersion (version : Int) : Prop := version + 1 < Bounds.signed64

instance (version : Int) : Decidable (HasNextVersion version) :=
  inferInstanceAs (Decidable (_ < _))

namespace Handle

/-- A result of the repository as a result of the store. -/
def lift {α : Type} (result : Except RepositoryError α) : Except StoreError α :=
  result.mapError .ofRepository

/-! ## Reading -/

/-- A stored record as an object of its kind. -/
def decode (kind : Kind) (stored : StoredRecord) : Except StoreError kind.Body :=
  match kind.bodyFormat.read stored.data with
  | .ok body => .ok (kind.withVersion body stored.version)
  | .error fault => .error (.malformed fault)

/-- An object of a known kind, if it exists. -/
def get (handle : Handle) (kind : Kind) (id : String) : Except StoreError (Option kind.Body) := do
  match ← lift (Repository.get handle.content ⟨kind, id⟩) with
  | none => return none
  | some stored => return some (← decode kind stored)

/-- The JSON of a body with its version replaced; a body that is no object has no place for it. -/
def withColumnVersion (data : Json) (version : Int) : Json :=
  match data with
  | .object members => .object (Entries.insert "version" (.integer version) members)
  | other => other

/-- An object by its address, if it exists. -/
def getRef (handle : Handle) (ref : Ref) : Except StoreError (Option Record) := do
  match ← lift (Repository.get handle.content ref) with
  | none => return none
  | some stored =>
      match Record.read stored.ref.kind (withColumnVersion stored.data stored.version) with
      | .ok record => return some record
      | .error fault => throw (.malformed fault)

/-- All objects of a kind, in the order of their ids. -/
def list (handle : Handle) (kind : Kind) : Except StoreError (List kind.Body) := do
  let stored ← lift (Repository.list handle.content kind)
  stored.mapM (decode kind)

/-- The number of objects of a kind. -/
def count (handle : Handle) (kind : Kind) : Except StoreError Nat :=
  lift (Repository.count handle.content kind)

/-- The objects that were deleted, the earliest first. -/
def tombstones (handle : Handle) : Except StoreError (List Ref) :=
  lift (Repository.tombstones handle.content none)

/-! ## Writing -/

/-- An object as a stored record. -/
def encode (kind : Kind) (body : kind.Body) : StoredRecord where
  ref := kind.ref body
  version := kind.version body
  data := kind.bodyFormat.write body

/-- Stores a new object as version 1, and gives the object with that version. -/
def insert (handle : Handle) (kind : Kind) (body : kind.Body) :
    Except StoreError (kind.Body × Handle) := do
  let stored := kind.withVersion body 1
  let content ← lift (Repository.insert handle.content (encode kind stored))
  let handle := (handle.withContent content).note (.inserted kind)
  return (stored, handle.record (.updated ⟨kind, stored⟩))

/-- Replaces an object whose stored version is the expected one, and gives the object with its
next version; the expected version is taken to have one. -/
def update (handle : Handle) (kind : Kind) (body : kind.Body) :
    Except StoreError (kind.Body × Handle) := do
  let ref := kind.ref body
  let expected := handle.expectedVersion ref (kind.version body)
  let stored := kind.withVersion body (expected + 1)
  let content ← lift (Repository.update handle.content (encode kind stored) expected)
  let handle := (handle.withContent content).noteVersion ref expected (expected + 1)
  let handle := handle.note (.updated kind (expected + 1))
  return (stored, handle.record (.updated ⟨kind, stored⟩))

/-- Deletes an object if it exists, and tells whether it did. -/
def delete (handle : Handle) (kind : Kind) (id : String) : Except StoreError (Bool × Handle) := do
  let ref : Ref := ⟨kind, id⟩
  let (existed, content) ← lift (Repository.delete handle.content ref)
  if existed then
    let content ← lift (Repository.addTombstone content handle.now ref)
    let handle := (handle.withContent content).note (.deleted kind)
    return (true, handle.record (.deleted ref))
  else return (false, handle)

end Handle

end ScopedStore
