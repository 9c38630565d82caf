import ScopedStore.Proofs.Logs.Stores
import ScopedStore.Proofs.Migrations

/-!
# Stores that are opened

What is logged while a store is opened are the mode of its database, versions of its schema, and
why an opening failed. So two stores that are opened with the same settings log the same if they
find databases of the same shape, or find none for the same reason (`Store.openIn_sameShape`); and
then the stores have the same shape themselves, so all that is said of stores of the same shape is
said of whole lives of stores.
-/

set_option autoImplicit false

namespace ScopedStore

/-! ## Migrations -/

namespace Database

variable {first second : Database}

/-- The databases have the same shape and moved between the same versions. -/
structure Migrated.SameShape (first second : Migrated) : Prop where
  database : first.database.SameShape second.database
  step : first.step = second.step

namespace SameShape

theorem applyMigration (same : first.SameShape second) (migration : Migration) :
    (migration.apply first).SameShape (migration.apply second) where
  version := rfl
  tables kind := by
    rw [Migration.apply, Migration.apply, get?_createTables, get?_createTables, Option.isSome_or,
      Option.isSome_or, same.tables]
  tombstones := by
    have graves := same.tombstones
    rw [Migration.apply, Migration.apply]
    revert graves
    cases first.tombstones <;> cases second.tombstones
    · exact fun _ => rfl
    · exact fun differ => Bool.noConfusion differ
    · exact fun differ => Bool.noConfusion differ
    · exact fun _ => rfl
  rows ref := by
    rw [row?_applyMigration, row?_applyMigration]
    exact same.rows ref

theorem applyMigrations (same : first.SameShape second) (migrations : List Migration) :
    (migrations.foldl Migration.apply first).SameShape
      (migrations.foldl Migration.apply second) := by
  induction migrations generalizing first second with
  | nil => exact same
  | cons migration rest ih => exact ih (same.applyMigration migration)

/-- **Bringing the schema up to date keeps the shape**, and where it is refused it is refused for
the same reason. -/
theorem migrate (same : first.SameShape second) :
    Parallel Migrated.SameShape first.migrate second.migrate := by
  have versions : first.currentVersion = second.currentVersion := by
    rw [currentVersion, currentVersion, same.version]
  rw [Database.migrate, Database.migrate, versions]
  cases second.currentVersion with
  | error cause => exact .error _
  | ok version =>
      dsimp only
      by_cases newer : Migration.latest < version
      · rw [if_pos newer, if_pos newer]
        exact .error _
      · rw [if_neg newer, if_neg newer]
        by_cases current : version = Migration.latest
        · rw [if_pos current, if_pos current]
          exact .ok ⟨same, rfl⟩
        · rw [if_neg current, if_neg current]
          exact .ok ⟨same.applyMigrations _, rfl⟩

end SameShape

end Database

/-! ## Openings -/

/-- What is found has the same shape, and the same is in the way of a change. -/
structure Found.SameShape (first second : Found) : Prop where
  content : first.content.SameShape second.content
  obstacle : first.obstacle = second.obstacle

theorem Found.SameShape.migrate {first second : Found} (same : first.SameShape second) :
    Parallel (fun brought brought' => brought.1.SameShape brought'.1 ∧ brought.2 = brought'.2)
      first.migrate second.migrate := by
  have migrated := same.content.migrate
  rw [Found.migrate, Found.migrate]
  generalize first.content.migrate = result, second.content.migrate = result' at migrated ⊢
  cases migrated with
  | error cause => exact .error cause
  | @ok value other shape =>
      obtain ⟨database, step⟩ := value
      obtain ⟨database', step'⟩ := other
      obtain ⟨databases, rfl⟩ := shape
      cases step with
      | none => exact .ok ⟨databases, rfl⟩
      | some step =>
          obtain ⟨start, goal⟩ := step
          dsimp only [Found.changed]
          rw [same.obstacle]
          cases second.obstacle with
          | some cause => exact .error _
          | none => exact .ok ⟨databases, rfl⟩

/-- **Opening a database logs the same** whatever its rows say. -/
theorem Database.bootstrap_sameShape (mode : StorageMode) {found found' : Except DatabaseError Found}
    (same : Parallel Found.SameShape found found') :
    Parallel SameShape (bootstrap mode found).1 (bootstrap mode found').1 ∧
      (bootstrap mode found).2 = (bootstrap mode found').2 := by
  have brought : Parallel (fun brought brought' => brought.1.SameShape brought'.1 ∧
      brought.2 = brought'.2) (found.bind Found.migrate) (found'.bind Found.migrate) := by
    cases same with
    | error cause => exact .error cause
    | ok shape => exact shape.migrate
  rw [bootstrap, bootstrap]
  generalize found.bind Found.migrate = result, found'.bind Found.migrate = result' at brought ⊢
  cases brought with
  | error cause => exact ⟨.error cause, rfl⟩
  | @ok value other shape =>
      obtain ⟨database, log⟩ := value
      obtain ⟨database', log'⟩ := other
      obtain ⟨databases, rfl⟩ := shape
      exact ⟨.ok databases, rfl⟩

namespace Store

/-- What an opening finds under the settings: the place of the database, and the database. -/
def sighting (files : FileTree) (locks : Locks) (config : Config) :
    Except DatabaseError (Option (List String) × Found) :=
  let (link, files) := files.openDatabase none config.path
  link.bind fun link => ((link.findUnder locks files).1.mapError .engine).map fun found =>
    (link.place?, found)

/-- What the opening of a store gives and logs, told by what it finds. -/
def openingOf (locks : Locks) (config : Config) (ids : IdSource) (now : Int)
    (seen : Except DatabaseError (Option (List String) × Found)) : Except Refusal Store × List Event :=
  let mode := storageMode config
  match seen.map Prod.fst, Database.bootstrap mode (seen.map Prod.snd) with
  | .ok place, (.ok database, log) =>
      match engineTimeout config.busyTimeout with
      | .error refusal => (.error refusal, log)
      | .ok busyTimeout =>
          let log := log ++ [.storeReady mode]
          (.ok
            { config, place, database, busyTimeout, bus := .empty, ids, now, log,
              contention := locks.on place }, log)
  | .error cause, (_, log) | _, (.error cause, log) =>
      (.error (.failure (.ofDatabase cause)), log)

theorem openIn_eq (files : FileTree) (locks : Locks) (config : Config) (ids : IdSource) (now : Int)
    (valid : config.validate = .ok ()) :
    ((openIn files locks config ids now).result, (openIn files locks config ids now).log) =
      openingOf locks config ids now (sighting files locks config) := by
  rw [openIn, valid, sighting]
  rcases files.openDatabase none config.path with ⟨cause | link, opened⟩
  · rfl
  · dsimp only [Except.bind]
    rcases link.findUnder locks opened with ⟨cause | found, left⟩
    · rfl
    · dsimp only [Except.mapError, Except.map, openingOf]
      rcases Database.bootstrap (storageMode config) (.ok found) with ⟨cause | database, log⟩
      · rfl
      · dsimp only
        cases engineTimeout config.busyTimeout <;> rfl

theorem openingOf_sameShape (locks : Locks) (config : Config) (ids : IdSource) (now now' : Int)
    {seen seen' : Except DatabaseError (Option (List String) × Found)}
    (same : Parallel (fun seen seen' => seen.1 = seen'.1 ∧ seen.2.SameShape seen'.2) seen seen') :
    Parallel SameShape (openingOf locks config ids now seen).1
        (openingOf locks config ids now' seen').1 ∧
      (openingOf locks config ids now seen).2 = (openingOf locks config ids now' seen').2 := by
  cases same with
  | error cause => exact ⟨.error _, rfl⟩
  | @ok value other shape =>
      obtain ⟨place, found⟩ := value
      obtain ⟨place', found'⟩ := other
      obtain ⟨places, founds⟩ := shape
      dsimp only at places
      subst places
      have both : Parallel Found.SameShape (.ok found : Except DatabaseError Found) (.ok found') :=
        .ok founds
      obtain ⟨databases, logs⟩ := Database.bootstrap_sameShape (storageMode config) both
      dsimp only [openingOf, Except.map]
      generalize Database.bootstrap (storageMode config) (.ok found) = brought,
        Database.bootstrap (storageMode config) (.ok found') = brought' at databases logs ⊢
      obtain ⟨result, log⟩ := brought
      obtain ⟨result', log'⟩ := brought'
      dsimp only at databases logs
      subst logs
      cases databases with
      | error cause => exact ⟨.error _, rfl⟩
      | ok shape =>
          dsimp only
          cases engineTimeout config.busyTimeout with
          | error refusal => exact ⟨.error _, rfl⟩
          | ok busyTimeout =>
              exact ⟨.ok ⟨rfl, shape, rfl, ⟨rfl, rfl, fun _ => rfl⟩, rfl, rfl⟩, rfl⟩

/-- **Stores that find databases of the same shape have the same shape** once they are opened, and
have logged the same; and if an opening fails it fails and logs the same on both sides. -/
theorem openIn_sameShape (files files' : FileTree) (locks : Locks) (config : Config) (ids : IdSource)
    (now now' : Int)
    (same : Parallel (fun seen seen' => seen.1 = seen'.1 ∧ seen.2.SameShape seen'.2)
      (sighting files locks config) (sighting files' locks config)) :
    let opening := openIn files locks config ids now
    let opening' := openIn files' locks config ids now'
    Parallel SameShape opening.result opening'.result ∧ opening.log = opening'.log := by
  cases valid : config.validate with
  | error cause =>
      rw [openIn, openIn, valid]
      exact ⟨.error _, rfl⟩
  | ok done =>
      have told := openIn_eq files locks config ids now valid
      have told' := openIn_eq files' locks config ids now' valid
      have opened := openingOf_sameShape locks config ids now now' same
      rw [← told, ← told'] at opened
      exact opened

end Store

end ScopedStore
