import ScopedStore.Database.Opening
import ScopedStore.Database.Repository
import ScopedStore.Proofs.Writes

/-!
# Migrations lose nothing

A database keeps what another one has if all its tables are there with the same rows; what may be
added are blank tables (`Database.Keeps`). A migration creates the tables that are absent, so it
keeps everything, and after all of them no table is missing (`Database.keeps_upgraded`,
`Database.complete_upgraded`).

What becomes of a database is told by the version in its header. One that is older than the newest
schema is upgraded, one with the newest schema is left as it is, and one that is newer, or has a
negative version, is refused (`Database.migrate_eq_ok_iff` and the four cases before it). A database
that was brought up to date is one that the repository takes, and bringing it up to date again
changes nothing.
-/

set_option autoImplicit false

namespace ScopedStore

/-! ## Tables that are created -/

/-- A table that is absent is created, and is blank. -/
theorem get?_createTable (tables : SortedMap Kind Table) (created kind : Kind) :
    (if tables.contains created then tables else tables.insert created ∅).get? kind =
      (tables.get? kind).or (if kind = created then some ∅ else none) := by
  rw [SortedMap.contains]
  cases held : tables.get? created with
  | some table =>
      rw [Option.isSome_some, if_pos rfl]
      by_cases same : kind = created
      · rw [same, held]
        rfl
      · rw [if_neg same, Option.or_none]
  | none =>
      rw [Option.isSome_none, if_neg Bool.false_ne_true, SortedMap.get?_insert]
      by_cases same : kind = created
      · rw [if_pos same, if_pos same, same, held]
        rfl
      · rw [if_neg same, if_neg same, Option.or_none]

theorem get?_createTables (kinds : List Kind) (tables : SortedMap Kind Table) (kind : Kind) :
    (kinds.foldl (fun tables kind =>
        if tables.contains kind then tables else tables.insert kind ∅) tables).get? kind =
      (tables.get? kind).or (if kind ∈ kinds then some ∅ else none) := by
  induction kinds generalizing tables with
  | nil => exact Option.or_none.symm
  | cons first rest ih =>
      rw [List.foldl_cons, ih, get?_createTable, Option.or_assoc]
      by_cases here : kind = first
      · have member : kind ∈ first :: rest := here ▸ List.mem_cons_self
        rw [if_pos here, if_pos member]
        rfl
      · rw [if_neg here, Option.none_or]
        simp only [List.mem_cons, here, false_or]

namespace Database

theorem row?_applyMigration (database : Database) (migration : Migration) (ref : Ref) :
    (migration.apply database).row? ref = database.row? ref := by
  rw [row?, Migration.apply, get?_createTables, row?]
  cases database.tables.get? ref.kind with
  | some table => rfl
  | none => split <;> rfl

/-! ## What is kept -/

/-- Every table of the first database is there with the same rows, and what the second one has
beside them is blank. The versions in the headers may differ. -/
structure Keeps (first second : Database) : Prop where
  tables : ∀ kind, second.tables.get? kind = first.tables.get? kind ∨
    first.tables.get? kind = none ∧ second.tables.get? kind = some ∅
  tombstones : second.tombstones = first.tombstones ∨
    first.tombstones = none ∧ second.tombstones = some ∅

namespace Keeps

variable {first second third : Database}

theorem refl (database : Database) : database.Keeps database :=
  ⟨fun _ => .inl rfl, .inl rfl⟩

theorem trans (keeps : first.Keeps second) (later : second.Keeps third) : first.Keeps third where
  tables kind := by
    rcases later.tables kind with same | ⟨absent, blank⟩
    · rw [same]
      exact keeps.tables kind
    · rcases keeps.tables kind with same | ⟨_, present⟩
      · exact .inr ⟨same ▸ absent, blank⟩
      · rw [absent] at present
        cases present
  tombstones := by
    rcases later.tombstones with same | ⟨absent, blank⟩
    · rw [same]
      exact keeps.tombstones
    · rcases keeps.tombstones with same | ⟨_, present⟩
      · exact .inr ⟨same ▸ absent, blank⟩
      · rw [absent] at present
        cases present

/-- Every row is as it was. -/
theorem row?_eq (keeps : first.Keeps second) (ref : Ref) : second.row? ref = first.row? ref := by
  rw [row?, row?]
  rcases keeps.tables ref.kind with same | ⟨absent, blank⟩
  · rw [same]
  · rw [absent, blank]
    rfl

end Keeps

theorem keeps_applyMigration (database : Database) (migration : Migration) :
    database.Keeps (migration.apply database) where
  tables kind := by
    rw [Migration.apply, get?_createTables]
    cases database.tables.get? kind with
    | some table => exact .inl rfl
    | none =>
        by_cases created : kind ∈ migration.tables
        · exact .inr ⟨rfl, by simp [created]⟩
        · exact .inl (by simp [created])
  tombstones := by
    rw [Migration.apply]
    cases database.tombstones with
    | some tombstones => exact .inl rfl
    | none =>
        by_cases created : migration.createsTombstones
        · exact .inr ⟨rfl, by simp [created]⟩
        · exact .inl (by simp [created])

/-! ## All migrations -/

/-- The database behind all migrations. -/
def upgraded (database : Database) : Database := Migration.all.foldl Migration.apply database

/-- **No migration loses anything.** -/
theorem keeps_upgraded (database : Database) : database.Keeps database.upgraded := by
  rw [upgraded]
  induction Migration.all generalizing database with
  | nil => exact .refl database
  | cons migration rest ih => exact (database.keeps_applyMigration migration).trans (ih _)

@[simp] theorem userVersion_upgraded (database : Database) :
    database.upgraded.userVersion = Migration.latest := rfl

/-- **No table is missing behind all migrations.** -/
theorem complete_upgraded (database : Database) : database.upgraded.Complete where
  tables kind := by
    have created : kind ∈ Kind.all := by cases kind <;> decide
    show ((Migration.apply database ⟨1, Kind.all, true⟩).tables.get? kind).isSome
    rw [Migration.apply, get?_createTables, if_pos created]
    cases database.tables.get? kind <;> rfl
  tombstones := by
    show (Migration.apply database ⟨1, Kind.all, true⟩).tombstones.isSome
    rw [Migration.apply]
    cases database.tombstones <;> rfl

/-! ## Bringing the schema up to date -/

variable {database : Database}

/-- A database with an older schema is upgraded. -/
theorem migrate_of_older (version : 0 ≤ database.userVersion)
    (older : database.userVersion < Migration.latest) :
    database.migrate = .ok ⟨database.upgraded, some (0, Migration.latest)⟩ := by
  have first : database.userVersion = 0 := by
    rw [show (Migration.latest : Int) = 1 from rfl] at older
    omega
  rw [migrate, currentVersion, first]
  rfl

/-- A database with the newest schema is left as it is. -/
theorem migrate_of_latest (current : database.userVersion = Migration.latest) :
    database.migrate = .ok ⟨database, none⟩ := by
  rw [migrate, currentVersion, current]
  rfl

/-- A database with a newer schema is refused. -/
theorem migrate_of_newer (newer : Migration.latest < database.userVersion) :
    database.migrate =
      .error (.unsupportedVersion database.userVersion.toNat Migration.latest) := by
  rw [migrate, currentVersion]
  cases version : database.userVersion with
  | ofNat number =>
      rw [version] at newer
      have above : Migration.latest < number := Int.ofNat_lt.1 newer
      simp [above]
  | negSucc number =>
      rw [version] at newer
      have latest : (0 : Int) ≤ Migration.latest := Int.natCast_nonneg _
      omega

/-- A version that is none is refused by the engine. -/
theorem migrate_of_negative (negative : database.userVersion < 0) :
    database.migrate = .error (.engine (.versionOutOfRange database.userVersion)) := by
  rw [migrate, currentVersion]
  cases version : database.userVersion with
  | ofNat number =>
      rw [version] at negative
      exact absurd (Int.natCast_nonneg number) (Int.not_le.2 negative)
  | negSucc number => rfl

/-- **What becomes of a database that is not refused.** -/
theorem migrate_eq_ok_iff {migrated : Migrated} :
    database.migrate = .ok migrated ↔
      database.userVersion = Migration.latest ∧ migrated = ⟨database, none⟩ ∨
      (0 ≤ database.userVersion ∧ database.userVersion < Migration.latest) ∧
        migrated = ⟨database.upgraded, some (0, Migration.latest)⟩ := by
  by_cases negative : database.userVersion < 0
  · have latest : (0 : Int) ≤ Migration.latest := Int.natCast_nonneg _
    rw [migrate_of_negative negative]
    refine iff_of_false nofun ?_
    rintro (⟨current, _⟩ | ⟨⟨version, _⟩, _⟩) <;> omega
  · rcases Int.lt_trichotomy database.userVersion Migration.latest with older | current | newer
    · rw [migrate_of_older (by omega) older, Except.ok.injEq, eq_comm]
      exact ⟨fun same => .inr ⟨⟨by omega, older⟩, same⟩,
        fun either => (either.resolve_left fun ⟨current, _⟩ => Int.ne_of_lt older current).2⟩
    · rw [migrate_of_latest current, Except.ok.injEq, eq_comm]
      exact ⟨fun same => .inl ⟨current, same⟩,
        fun either => (either.resolve_right fun ⟨⟨_, older⟩, _⟩ => Int.ne_of_lt older current).2⟩
    · rw [migrate_of_newer newer]
      refine iff_of_false nofun ?_
      rintro (⟨current, _⟩ | ⟨⟨_, older⟩, _⟩) <;> omega

/-- The repository takes the databases with the newest schema. -/
theorem check_eq_ok_iff : Repository.check database = .ok () ↔
    database.userVersion = Migration.latest := by
  rw [Repository.check, currentVersion]
  cases database.userVersion with
  | ofNat number =>
      by_cases current : number = Migration.latest
      · simp [current]
      · have other : (Int.ofNat number) ≠ Migration.latest := fun same =>
          current (Int.ofNat.inj same)
        dsimp only
        rw [if_neg current]
        exact iff_of_false nofun other
  | negSucc number => exact iff_of_false nofun nofun

end Database

/-! ## Databases that are found -/

namespace Found

variable {found : Found} {database : Database} {log : List Event}

/-- What is found with the newest schema is left as it is, whatever is in the way of a change. -/
theorem migrate_of_latest (current : found.content.userVersion = Migration.latest) :
    found.migrate = .ok (found.content, []) := by
  rw [migrate, Database.migrate_of_latest current]

/-- What is found with an older schema is upgraded, if nothing is in the way. -/
theorem migrate_of_older (version : 0 ≤ found.content.userVersion)
    (older : found.content.userVersion < Migration.latest) :
    found.migrate =
      match found.obstacle with
      | none => .ok (found.content.upgraded, [.migrated 0 Migration.latest])
      | some cause => .error (.engine cause) := by
  rw [migrate, Database.migrate_of_older version older]
  dsimp only [changed]
  cases found.obstacle <;> rfl

theorem migrate_of_error {cause : DatabaseError} (refused : found.content.migrate = .error cause) :
    found.migrate = .error cause := by
  rw [migrate, refused]

/-- **What was brought up to date has the newest schema and all that was there before.** Either it
was left as it was, or its schema was older and nothing was in the way of the change, and no table
is missing now. -/
theorem migrate_eq_ok (brought : found.migrate = .ok (database, log)) :
    database.userVersion = Migration.latest ∧ found.content.Keeps database ∧
      (database = found.content ∧ log = [] ∨
        found.obstacle = none ∧
          (0 ≤ found.content.userVersion ∧ found.content.userVersion < Migration.latest) ∧
          database.Complete ∧ log ≠ []) := by
  cases migrated : found.content.migrate with
  | error cause =>
      rw [migrate_of_error migrated] at brought
      cases brought
  | ok outcome =>
      obtain ⟨current, _⟩ | ⟨⟨version, older⟩, _⟩ := Database.migrate_eq_ok_iff.1 migrated
      · rw [migrate_of_latest current] at brought
        cases brought
        exact ⟨current, .refl _, .inl ⟨rfl, rfl⟩⟩
      · rw [migrate_of_older version older] at brought
        cases free : found.obstacle with
        | some cause =>
            rw [free] at brought
            cases brought
        | none =>
            rw [free] at brought
            cases brought
            exact ⟨found.content.userVersion_upgraded, found.content.keeps_upgraded,
              .inr ⟨rfl, ⟨version, older⟩, found.content.complete_upgraded,
                List.cons_ne_nil _ _⟩⟩

/-- Something is logged exactly if something was changed. -/
theorem isEmpty_of_migrate (brought : found.migrate = .ok (database, log)) :
    log.isEmpty = (found.content == database) := by
  obtain ⟨current, _, ⟨rfl, rfl⟩ | ⟨_, ⟨_, older⟩, _, logged⟩⟩ := migrate_eq_ok brought
  · simp
  · have other : found.content ≠ database := by
      rintro rfl
      exact Int.ne_of_lt older current
    rw [beq_false_of_ne other, List.isEmpty_eq_false_iff]
    exact logged

end Found

end ScopedStore
