import ScopedStore.Database.Content
import ScopedStore.Database.Error

/-!
# Schema migrations

The header of a database records the version of its schema. Migrations are applied in the order
of their versions, those above the recorded version only, and each of them creates the tables
that are absent and leaves the others alone. So a migration loses nothing, whatever tables and
rows there were before, and a database at the latest version is left as it is.

A version above the latest one is refused, and so is a negative one, which is no version at all.
-/

set_option autoImplicit false

namespace ScopedStore

/-- A step from one schema to the next: the version of the schema afterwards, the tables of objects
that it creates, and whether it creates the table of tombstones. -/
structure Migration where
  version : Nat
  tables : List Kind
  createsTombstones : Bool

namespace Migration

/-- All migrations, in the order of their versions. -/
def all : List Migration := [⟨1, Kind.all, true⟩]

/-- The version of the newest schema. -/
def latest : Nat := (all.getLast?.map version).getD 0

/-- Creates the tables of a migration that are absent, and records its version. -/
def apply (database : Database) (migration : Migration) : Database where
  userVersion := migration.version
  tables := migration.tables.foldl (fun tables kind =>
    if tables.contains kind then tables else tables.insert kind ∅) database.tables
  tombstones :=
    match database.tombstones with
    | some tombstones => some tombstones
    | none => if migration.createsTombstones then some ∅ else none

end Migration

namespace Database

/-- The schema version, if it is one. -/
def currentVersion (database : Database) : Except EngineError Nat :=
  match database.userVersion with
  | .ofNat version => .ok version
  | .negSucc version => .error (.versionOutOfRange (.negSucc version))

/-- The outcome of a migration: the database, and the versions between which it moved, if it
moved. -/
structure Migrated where
  database : Database
  step : Option (Nat × Nat)

/-- Brings the schema up to date. -/
def migrate (database : Database) : Except DatabaseError Migrated :=
  match database.currentVersion with
  | .error cause => .error (.engine cause)
  | .ok version =>
      if Migration.latest < version then .error (.unsupportedVersion version Migration.latest)
      else if version = Migration.latest then .ok ⟨database, none⟩
      else
        let pending := Migration.all.filter fun migration => version < migration.version
        .ok ⟨pending.foldl Migration.apply database, some (version, Migration.latest)⟩

end Database

end ScopedStore
