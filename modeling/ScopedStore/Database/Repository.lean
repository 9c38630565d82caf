import ScopedStore.Database.Migration
import ScopedStore.Json.Parser
import ScopedStore.Text.Pieces

/-!
# Rows as records

The repository reads and writes rows of any kind without knowing what their bodies mean: a body
is JSON, and is stored as its compact text. Every operation is a function from one content of
the database to the next; an operation that fails has no next content, so it changes nothing.

A row whose body is no JSON text cannot be read, neither alone nor in a listing, and a listing
with one unreadable row has no result at all.
-/

set_option autoImplicit false

namespace ScopedStore

/-- What is wrong with stored data: a body is no JSON text, a tombstone names a kind that is not
known, or anything else, in words. -/
inductive DataFault
  | unreadableBody (ref : Ref)
  | unknownTombstone (unknown : UnknownKind)
  | described (text : String)
  deriving DecidableEq, Repr

namespace DataFault

/-- How the message of an unreadable body starts, in front of the body. -/
def bodyPhrase : String := "invalid json body for "

/-- What stands between the body and the name of its table. -/
def tablePhrase : String := " in db_"

/-- What stands in the place of the words of the JSON reader. -/
def wording : String := "<json>"

/-- The text without the words of the JSON reader: they stand behind the first colon and blank
behind the name of the table. -/
def withoutWording (text : String) : String :=
  let (front, body) := Text.cutBefore bodyPhrase.toList text.toList
  let (body, table) := Text.cutBefore tablePhrase.toList body
  let (table, words) := Text.cutBefore [':', ' '] table
  if words.isEmpty then text else String.ofList (front ++ body ++ table) ++ ": " ++ wording

/-- The message of stored data that is wrong. The words of the JSON reader are not part of it. -/
def message : DataFault → String
  | unreadableBody ref =>
      withoutWording s!"{bodyPhrase}{ref.display} in {ref.kind.tableName}: {wording}"
  | unknownTombstone unknown => s!"{unknown.message} in {Database.tombstoneTableName}.otype"
  | described text => withoutWording text

end DataFault

/-- Failures of operations on rows. The schema may not be the one that is needed
(`uninitialized`). -/
inductive RepositoryError
  | database (cause : DatabaseError)
  | notFound (ref : Ref)
  | duplicateKey (ref : Ref)
  | versionConflict (ref : Ref) (expected actual : Int)
  | uninitialized (expected actual : Nat)
  | invalidData (fault : DataFault)
  deriving DecidableEq, Repr

namespace RepositoryError

/-- The message of a failure. -/
def message : RepositoryError → String
  | database cause => cause.message
  | notFound ref => s!"object not found: {ref.display}"
  | duplicateKey ref => s!"object already exists: {ref.display}"
  | versionConflict ref expected actual =>
      s!"version conflict for {ref.display}: expected {expected}, stored {actual}"
  | uninitialized expected actual =>
      s!"object repository requires schema version {expected}, got {actual}"
  | invalidData fault => s!"invalid persisted object data: {fault.message}"

/-- The messages of what stands behind a failure. -/
def causes : RepositoryError → List String
  | database cause => [cause.message]
  | _ => []

end RepositoryError

/-- A row with its body as JSON. -/
structure StoredRecord where
  ref : Ref
  version : Int
  data : Json
  deriving DecidableEq, Inhabited

namespace Repository

/-- A failure of the engine as a failure of the repository. -/
def engineFailure (cause : EngineError) : RepositoryError := .database (.engine cause)

/-- The rows of a kind. -/
def table (database : Database) (kind : Kind) : Except RepositoryError Table :=
  (database.rows kind).mapError engineFailure

/-- The tombstones. -/
def tombstoneTable (database : Database) : Except RepositoryError Tombstones :=
  database.deletions.mapError engineFailure

/-- Is the schema the one that the repository needs? -/
def check (database : Database) : Except RepositoryError Unit :=
  match database.currentVersion with
  | .error cause => .error (engineFailure cause)
  | .ok version =>
      if version = Migration.latest then .ok ()
      else .error (.uninitialized Migration.latest version)

/-- A row as a record. -/
def toRecord (ref : Ref) (row : Row) : Except RepositoryError StoredRecord :=
  match Json.parse? row.body with
  | some data => .ok ⟨ref, row.version, data⟩
  | none => .error (.invalidData (.unreadableBody ref))

/-- A record as a row. -/
def toRow (record : StoredRecord) : Row := ⟨record.version, record.data.render⟩

/-- The record at an address, if there is one. -/
def get (database : Database) (ref : Ref) : Except RepositoryError (Option StoredRecord) := do
  let table ← table database ref.kind
  match table.get? ref.id with
  | none => return none
  | some row => return some (← toRecord ref row)

/-- Adds a record where there is none. -/
def insert (database : Database) (record : StoredRecord) : Except RepositoryError Database := do
  let table ← table database record.ref.kind
  if table.contains record.ref.id then throw (.duplicateKey record.ref)
  return database.withTable record.ref.kind (table.insert record.ref.id (toRow record))

/-- Replaces a record that has the expected version. -/
def update (database : Database) (record : StoredRecord) (expected : Int) :
    Except RepositoryError Database := do
  let table ← table database record.ref.kind
  match table.get? record.ref.id with
  | none => throw (.notFound record.ref)
  | some row =>
      if row.version = expected then
        return database.withTable record.ref.kind (table.insert record.ref.id (toRow record))
      else throw (.versionConflict record.ref expected row.version)

/-- Removes the record at an address, and tells whether there was one. -/
def delete (database : Database) (ref : Ref) : Except RepositoryError (Bool × Database) := do
  let table ← table database ref.kind
  if table.contains ref.id then
    return (true, database.withTable ref.kind (table.erase ref.id))
  else return (false, database)

/-- The number of records of a kind. -/
def count (database : Database) (kind : Kind) : Except RepositoryError Nat := do
  return (← table database kind).size

/-- All records of a kind, in the order of their ids. -/
def list (database : Database) (kind : Kind) : Except RepositoryError (List StoredRecord) := do
  let table ← table database kind
  table.entries.mapM fun (id, row) => toRecord ⟨kind, id⟩ row

/-- Remembers a deletion; a later one of the same object replaces its time. -/
def addTombstone (database : Database) (now : Int) (ref : Ref) :
    Except RepositoryError Database := do
  let tombstones ← tombstoneTable database
  return { database with tombstones := some (tombstones.insert (.ofRef ref) now) }

/-- The tombstones of a kind, or all of them: by time, then by tag, then by id. -/
def tombstones (database : Database) (kind : Option Kind) : Except RepositoryError (List Ref) := do
  let tombstones ← tombstoneTable database
  let chosen := tombstones.entries.filter fun entry =>
    kind.all fun kind => entry.1.tag == kind.tag
  let ordered := chosen.mergeSort fun first second => decide (first.2 ≤ second.2)
  ordered.mapM fun (key, _) =>
    match Kind.ofTag key.tag with
    | .ok kind => .ok ⟨kind, key.id⟩
    | .error unknown => .error (.invalidData (.unknownTombstone unknown))

end Repository

end ScopedStore
