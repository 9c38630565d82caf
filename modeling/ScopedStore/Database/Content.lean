import ScopedStore.Database.Error
import ScopedStore.Model.Ref

/-!
# The content of a database

A database holds one table of rows for each kind of object, a table of tombstones, and a schema
version in its header. Any of the tables may be absent: a fresh database has none, and a database
that was not set up by this library may lack some.

A row keeps the body of an object as text, together with the version that is authoritative for
it. A tombstone remembers a deleted object by tag and id, with the time of the deletion; the tag
is a text, for a tombstone may name a kind that this library does not know.
-/

set_option autoImplicit false

namespace ScopedStore

/-- A stored object: its version, and the text of its body. -/
structure Row where
  version : Int
  body : String
  deriving DecidableEq, Repr, Inhabited

/-- The rows of one kind, by id. -/
abbrev Table : Type := SortedMap String Row

/-- What a tombstone remembers: the tag of the kind, and the id of the object. -/
structure TombstoneKey where
  tag : String
  id : String
  deriving DecidableEq, Repr, Inhabited

namespace TombstoneKey

instance : Ord TombstoneKey := ⟨compareLex (compareOn tag) (compareOn id)⟩

instance : Std.TransOrd TombstoneKey :=
  inferInstanceAs (Std.TransCmp (compareLex (compareOn tag) (compareOn id)))

instance : Std.LawfulEqOrd TombstoneKey where
  eq_of_compare {first second} equal := by
    obtain ⟨tag, id⟩ := first
    obtain ⟨tag', id'⟩ := second
    change (compare tag tag').then (compare id id') = .eq at equal
    obtain ⟨sameTag, sameId⟩ := Ordering.then_eq_eq.1 equal
    rw [Std.LawfulEqOrd.eq_of_compare sameTag, Std.LawfulEqOrd.eq_of_compare sameId]

/-- The tombstone of an object. -/
def ofRef (ref : Ref) : TombstoneKey := ⟨ref.kind.tag, ref.id⟩

end TombstoneKey

/-- The times of deletion, in milliseconds, by what was deleted. -/
abbrev Tombstones : Type := SortedMap TombstoneKey Int

/-- The content of a database: the schema version in its header, a signed number, the tables of
objects that exist, and the table of tombstones, if it exists. -/
structure Database where
  userVersion : Int
  tables : SortedMap Kind Table
  tombstones : Option Tombstones
  deriving DecidableEq

namespace Database

/-- A fresh database. -/
def fresh : Database := ⟨0, ∅, none⟩

/-- What the engine writes into the header for a schema version. The header has room for 32 bits,
and a number that takes more is written as zero. -/
def headerVersion (version : Int) : Int :=
  if -2147483648 ≤ version ∧ version ≤ 2147483647 then version else 0

instance : Inhabited Database := ⟨fresh⟩

/-- The name of the table of tombstones. -/
def tombstoneTableName : String := "db_tombstone"

/-- The names of the tables that exist, in order. -/
def tableNames (database : Database) : List String :=
  let objects := database.tables.keys.map Kind.tableName
  let names := if database.tombstones.isSome then tombstoneTableName :: objects else objects
  names.mergeSort fun first second => decide (first ≤ second)

/-- The rows of a kind, if there is a table for them. -/
def rows (database : Database) (kind : Kind) : Except EngineError Table :=
  match database.tables.get? kind with
  | some table => .ok table
  | none => .error (.noSuchTable kind.tableName)

/-- The tombstones, if there is a table for them. -/
def deletions (database : Database) : Except EngineError Tombstones :=
  match database.tombstones with
  | some tombstones => .ok tombstones
  | none => .error (.noSuchTable tombstoneTableName)

/-- The database with the rows of a kind replaced. -/
def withTable (database : Database) (kind : Kind) (table : Table) : Database :=
  { database with tables := database.tables.insert kind table }

end Database

/-! ## As it is found -/

/-- A database as a connection finds it, and why nothing can be written to it, if so. -/
structure Found where
  content : Database
  obstacle : Option EngineError

namespace Found

/-- A database that can be written. -/
def free (content : Database) : Found := ⟨content, none⟩

/-- What a change leaves, if there is nothing in its way. -/
def changed (found : Found) (content : Database) : Except EngineError Database :=
  match found.obstacle with
  | some cause => .error cause
  | none => .ok content

end Found

end ScopedStore
