import ScopedStore.Database.Link
import ScopedStore.Database.Opening

/-!
# Workbenches

A workbench has files and at most one link to a database. Databases are opened on it with or
without bringing their schema up to date, and what is done to the linked database stays where the
database is. The older link is there until the newer one is made; so a database in memory that
both may share is the same one.
-/

set_option autoImplicit false

namespace ScopedStore

/-- Files, and a link to a database. -/
structure Workbench where
  files : FileTree
  link : Option Link

namespace Workbench

/-! ## Opening -/

/-- Opens a database as it is. -/
def openAsIs (bench : Workbench) (name : String) : Except EngineError Workbench :=
  (bench.files.link bench.link name).map fun (link, files) => ⟨files, some link⟩

/-- The workbench with other content of the linked database. -/
def save (bench : Workbench) (content : Database) : Workbench :=
  match bench.link with
  | none => bench
  | some link =>
      let (link, files) := link.save bench.files content
      ⟨files, some link⟩

/-- Opens a database and brings its schema up to date. When that fails the older link stays. -/
def openUpdated (bench : Workbench) (name : Option String) :
    Except DatabaseError Database × List Event × Workbench :=
  let mode : StorageMode := if name.isSome then .file else .memory
  match bench.files.openDatabase bench.link name with
  | (.error cause, files) =>
      let (result, log) := Database.bootstrap mode (.error cause)
      (result, log, { bench with files })
  | (.ok link, files) =>
      let (found, files) := link.find files
      let found := found.mapError .engine
      match Database.bootstrap mode found with
      | (.error cause, log) => (.error cause, log, { bench with files })
      | (.ok database, log) =>
          let bench : Workbench := ⟨files, some { link with seen := some database }⟩
          let same := found.toOption.any fun found => found.content == database
          (.ok database, log, if same then bench else bench.save database)

/-! ## Working -/

/-- The database that is linked, if there is a link, and the workbench once it was found. -/
def find (bench : Workbench) : Option (Except EngineError Found) × Workbench :=
  match bench.link with
  | none => (none, bench)
  | some link =>
      let (found, files) := link.find bench.files
      (some found, ⟨files, some (link.looked found)⟩)

/-- Brings the schema of the linked database up to date, if there is a link. -/
def migrate (bench : Workbench) :
    Option (Except DatabaseError Database) × List Event × Workbench :=
  match bench.find with
  | (none, bench) => (none, [], bench)
  | (some found, after) =>
      match (found.mapError .engine).bind Found.migrate with
      | .error cause => (some (.error cause), [], { bench with files := after.files })
      | .ok (database, log) =>
          (some (.ok database), log, if log.isEmpty then after else after.save database)

/-- Does something directly to the linked database, if there is a link. -/
def act (bench : Workbench) (action : DirectAction) :
    Option (Except EngineError DirectAnswer) × Workbench :=
  match bench.link, bench.link.bind fun link => link.refusal? action with
  | none, _ => (none, bench)
  | some _, some cause => (some (.error cause), bench)
  | some link, none =>
      let (found, files) := link.find bench.files
      let link := if action.table?.isSome then link.looked found else link
      let bench : Workbench := ⟨files, some link⟩
      match (found.mapError (link.failure action)).bind action.run with
      | .error cause => (some (.error cause), bench)
      | .ok (answer, none) => (some (.ok answer), bench)
      | .ok (answer, some content) => (some (.ok answer), bench.save content)

end Workbench

end ScopedStore
