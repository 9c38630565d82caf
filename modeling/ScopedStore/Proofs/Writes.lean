import ScopedStore.Proofs.Moves

/-!
# Writes

Of all operations on a handle three can change a row: one stores a new record, one replaces a
record, one deletes it. This module settles once what they do. A write that succeeds fits the
rows that it finds (`Write.Fits`), and it changes exactly one row (`Write.row?_apply`), adds a
tombstone if it deletes and never takes one away (`Write.buried_apply`), notes the change in the
innermost frame and, if it replaces a record, the step from one version to the next.
-/

set_option autoImplicit false

namespace ScopedStore

/-! ## Rows -/

namespace Kind

@[simp] theorem version_withVersion (kind : Kind) (body : kind.Body) (version : Int) :
    kind.version (kind.withVersion body version) = version := by
  cases kind <;> rfl

@[simp] theorem id_withVersion (kind : Kind) (body : kind.Body) (version : Int) :
    kind.id (kind.withVersion body version) = kind.id body := by
  cases kind <;> rfl

@[simp] theorem ref_withVersion (kind : Kind) (body : kind.Body) (version : Int) :
    kind.ref (kind.withVersion body version) = kind.ref body := by
  rw [ref, id_withVersion, ref]

end Kind

/-- The row that holds a record. -/
def Record.row (record : Record) : Row :=
  Repository.toRow (Handle.encode record.kind record.body)

/-- Objects have different tombstones. -/
theorem TombstoneKey.ofRef_inj {first second : Ref} :
    ofRef first = ofRef second ↔ first = second := by
  refine ⟨fun same => ?_, congrArg ofRef⟩
  obtain ⟨kind, id⟩ := first
  obtain ⟨kind', id'⟩ := second
  have tags : kind.tag = kind'.tag := congrArg tag same
  have kinds := (kind.ofTag?_tag).symm.trans ((congrArg Kind.ofTag? tags).trans kind'.ofTag?_tag)
  rw [Option.some.inj kinds, show id = id' from congrArg TombstoneKey.id same]

namespace Database

/-- The row at an address. -/
def row? (database : Database) (ref : Ref) : Option Row :=
  (database.tables.get? ref.kind).bind fun table => table.get? ref.id

/-- There is a tombstone of the object. -/
def Buried (database : Database) (ref : Ref) : Prop :=
  ∃ tombstones, database.tombstones = some tombstones ∧ tombstones.contains (.ofRef ref) = true

/-- The database with a record in its row. -/
def put (database : Database) (record : Record) : Database :=
  match database.tables.get? record.kind with
  | some table => database.withTable record.kind (table.insert record.id record.row)
  | none => database

/-- The database without the row of an object, and with its tombstone. -/
def bury (database : Database) (now : Int) (ref : Ref) : Database :=
  match database.tables.get? ref.kind with
  | some table =>
      { database.withTable ref.kind (table.erase ref.id) with
        tombstones := database.tombstones.map fun held => held.insert (.ofRef ref) now }
  | none => database

/-- No table is missing. -/
structure Complete (database : Database) : Prop where
  tables : ∀ kind, (database.tables.get? kind).isSome
  tombstones : database.tombstones.isSome

/-- A database that has been set up and holds nothing yet. -/
def vacant : Database := Migration.all.foldl Migration.apply fresh

theorem exists_table_vacant (kind : Kind) : (vacant.tables.get? kind).isSome := by
  cases kind <;> rfl

theorem row?_vacant (ref : Ref) : vacant.row? ref = none := by
  obtain ⟨kind, id⟩ := ref
  cases kind <;> rfl

theorem table_withTable (database : Database) (kind other : Kind) (table : Table) :
    (database.withTable kind table).tables.get? other =
      if other = kind then some table else database.tables.get? other :=
  SortedMap.get?_insert database.tables kind other table

theorem tombstones_put (database : Database) (record : Record) :
    (database.put record).tombstones = database.tombstones := by
  rw [put]
  split <;> rfl

theorem row?_withTable (database : Database) (kind : Kind) (table : Table) (ref : Ref) :
    (database.withTable kind table).row? ref =
      if ref.kind = kind then table.get? ref.id else database.row? ref := by
  rw [row?, table_withTable]
  by_cases same : ref.kind = kind
  · rw [if_pos same, if_pos same]
    rfl
  · rw [if_neg same, if_neg same]
    rfl

/-- Storing a record changes no row of another kind. -/
theorem row?_put_of_kind (database : Database) (record : Record) {ref : Ref}
    (other : ref.kind ≠ record.kind) : (database.put record).row? ref = database.row? ref := by
  rw [put]
  split
  · rw [row?_withTable, if_neg other]
  · rfl

theorem row?_of_table {database : Database} {ref : Ref} {table : Table}
    (found : database.tables.get? ref.kind = some table) :
    database.row? ref = table.get? ref.id := by
  rw [row?, found]
  rfl

/-- Where there is a row there is a table. -/
theorem table_of_row {database : Database} {ref : Ref} {row : Row}
    (found : database.row? ref = some row) :
    ∃ table, database.tables.get? ref.kind = some table ∧ table.get? ref.id = some row :=
  Option.bind_eq_some_iff.1 found

/-- Replacing the table of a kind replaces the rows at the addresses of that kind; here it
changes one of them. -/
theorem row?_change {database : Database} {ref : Ref} {table changed : Table} {row : Option Row}
    (found : database.tables.get? ref.kind = some table)
    (change : ∀ id, changed.get? id = if id = ref.id then row else table.get? id) (other : Ref) :
    (database.withTable ref.kind changed).row? other =
      if other = ref then row else database.row? other := by
  rw [row?_withTable]
  by_cases kinds : other.kind = ref.kind
  · rw [if_pos kinds, change]
    by_cases ids : other.id = ref.id
    · have same : other = ref := by
        cases other
        cases ref
        simp only at kinds ids
        rw [kinds, ids]
      rw [if_pos ids, if_pos same]
    · rw [if_neg ids, if_neg fun same => ids (congrArg Ref.id same), row?, kinds, found]
      rfl
  · rw [if_neg kinds, if_neg fun same => kinds (congrArg Ref.kind same)]

end Database

/-! ## What a write does to a database -/

/-- A write that changed a row: the record as it was stored, or the address that was deleted. -/
inductive Write
  | inserted (record : Record)
  | updated (record : Record)
  | deleted (ref : Ref)
  deriving DecidableEq

namespace Write

/-- The address of the row. -/
def ref : Write → Ref
  | inserted record | updated record => record.ref
  | deleted ref => ref

/-- The row afterwards. -/
def row? : Write → Option Row
  | inserted record | updated record => some record.row
  | deleted _ => none

/-- The change that the write records. -/
def change : Write → Change
  | inserted record | updated record => .updated record
  | deleted ref => .deleted ref

/-- What is logged about the write. -/
def event : Write → Event
  | inserted record => .inserted record.kind
  | updated record => .updated record.kind record.version
  | deleted ref => .deleted ref.kind

/-- The database after the write. -/
def apply (now : Int) (database : Database) : Write → Database
  | inserted record | updated record => database.put record
  | deleted ref => database.bury now ref

/-- The write can be made: a new record takes a free row at version 1, a replaced one has the
version behind that of its row, and what is deleted is there. -/
inductive Fits (database : Database) : Write → Prop
  | inserted {record : Record} {table : Table}
      (found : database.tables.get? record.kind = some table)
      (free : database.row? record.ref = none) (first : record.version = 1) :
      Fits database (.inserted record)
  | updated {record : Record} {row : Row} (found : database.row? record.ref = some row)
      (next : record.version = row.version + 1) : Fits database (.updated record)
  | deleted {ref : Ref} {row : Row} {tombstones : Tombstones}
      (found : database.row? ref = some row) (graves : database.tombstones = some tombstones) :
      Fits database (.deleted ref)

variable {database : Database} {write : Write}

@[simp] theorem ref_change (write : Write) : write.change.ref = write.ref := by
  cases write <;> rfl

/-- A write that fits finds the table of its row. -/
theorem Fits.table (fits : write.Fits database) :
    ∃ table, database.tables.get? write.ref.kind = some table := by
  cases fits with
  | inserted found _ _ => exact ⟨_, found⟩
  | updated found _ => exact ⟨_, (Database.table_of_row found).choose_spec.1⟩
  | deleted found _ => exact ⟨_, (Database.table_of_row found).choose_spec.1⟩

/-- A write replaces the table of its row by one that differs in that row alone. -/
theorem Fits.tables_apply (fits : write.Fits database) (now : Int) :
    ∃ table changed : Table, database.tables.get? write.ref.kind = some table ∧
      (∀ id, changed.get? id = if id = write.ref.id then write.row? else table.get? id) ∧
      (write.apply now database).tables = (database.withTable write.ref.kind changed).tables := by
  obtain ⟨table, found⟩ := fits.table
  cases write with
  | inserted record | updated record =>
      refine ⟨table, table.insert record.id record.row, found, fun id => ?_, ?_⟩
      · exact SortedMap.get?_insert table record.id id record.row
      · have held : database.tables.get? record.kind = some table := found
        rw [apply, Database.put, held]
        rfl
  | deleted ref =>
      refine ⟨table, table.erase ref.id, found, fun id => ?_, ?_⟩
      · exact SortedMap.get?_erase table ref.id id
      · have held : database.tables.get? ref.kind = some table := found
        rw [apply, Database.bury, held]
        rfl

/-- **A write changes one row.** -/
theorem row?_apply (fits : write.Fits database) (now : Int) (ref : Ref) :
    (write.apply now database).row? ref =
      if ref = write.ref then write.row? else database.row? ref := by
  obtain ⟨table, changed, found, change, after⟩ := fits.tables_apply now
  rw [Database.row?, after, ← Database.row?, Database.row?_change found change]

theorem row?_apply_self (fits : write.Fits database) (now : Int) :
    (write.apply now database).row? write.ref = write.row? := by
  rw [row?_apply fits, if_pos rfl]

/-- A write neither adds a table nor takes one away. -/
theorem isSome_table_apply (fits : write.Fits database) (now : Int) (kind : Kind) :
    ((write.apply now database).tables.get? kind).isSome =
      (database.tables.get? kind).isSome := by
  obtain ⟨table, changed, found, _, after⟩ := fits.tables_apply now
  rw [after, Database.table_withTable]
  by_cases same : kind = write.ref.kind
  · rw [if_pos same, same, found]
    rfl
  · rw [if_neg same]

/-- A write neither adds the table of tombstones nor takes it away. -/
theorem isSome_tombstones_apply (write : Write) (now : Int) (database : Database) :
    (write.apply now database).tombstones.isSome = database.tombstones.isSome := by
  cases write with
  | inserted record | updated record => exact congrArg _ (database.tombstones_put record)
  | deleted ref =>
      rw [apply, Database.bury]
      split
      · exact Option.isSome_map
      · rfl

/-- The tombstones after the write: a deletion leaves one, and a later deletion of the same object
leaves it with a later time. -/
def graves (now : Int) (held : Tombstones) : Write → Tombstones
  | inserted _ | updated _ => held
  | deleted ref => held.insert (.ofRef ref) now

/-- **A write changes no tombstone but that of an object that it deletes.** -/
theorem tombstones_apply (fits : write.Fits database) (now : Int) :
    (write.apply now database).tombstones =
      database.tombstones.map fun held => write.graves now held := by
  cases fits with
  | inserted | updated => exact (database.tombstones_put _).trans Option.map_id'.symm
  | deleted stored graves =>
      obtain ⟨table, held, _⟩ := Database.table_of_row stored
      rw [apply, Database.bury, held]
      rfl

/-- No write takes a tombstone away. -/
theorem buried_apply (write : Write) (now : Int) {ref : Ref} (buried : database.Buried ref) :
    (write.apply now database).Buried ref := by
  obtain ⟨tombstones, found, member⟩ := buried
  cases write with
  | inserted record | updated record =>
      refine ⟨tombstones, ?_, member⟩
      rw [← found, apply, Database.put]
      split <;> rfl
  | deleted gone =>
      rw [apply, Database.bury]
      split
      · refine ⟨tombstones.insert (.ofRef gone) now, by simp only [found, Option.map_some], ?_⟩
        rw [SortedMap.contains, SortedMap.get?_insert]
        by_cases same : TombstoneKey.ofRef ref = .ofRef gone
        · rw [if_pos same]
          rfl
        · rw [if_neg same]
          exact member
      · exact ⟨tombstones, found, member⟩

/-- What is deleted gets its tombstone. -/
theorem buried_apply_deleted {ref : Ref} (fits : (deleted ref).Fits database) (now : Int) :
    ((deleted ref).apply now database).Buried ref := by
  cases fits with
  | deleted found graves =>
      obtain ⟨table, held, _⟩ := Database.table_of_row found
      rw [apply, Database.bury, held]
      refine ⟨_, by simp only [graves, Option.map_some]; rfl, ?_⟩
      rw [SortedMap.contains, SortedMap.get?_insert_self]
      rfl

/-- **There is a tombstone where there was one, and of what is deleted.** -/
theorem buried_apply_iff (fits : write.Fits database) (now : Int) (ref : Ref) :
    (write.apply now database).Buried ref ↔ database.Buried ref ∨ write = .deleted ref := by
  refine ⟨fun ⟨tombstones, found, member⟩ => ?_, ?_⟩
  · cases fits with
    | inserted | updated =>
        rw [apply, Database.tombstones_put] at found
        exact .inl ⟨tombstones, found, member⟩
    | @deleted gone row held stored graves =>
        obtain ⟨table, inTable, _⟩ := Database.table_of_row stored
        rw [apply, Database.bury, inTable] at found
        simp only [graves, Option.map_some, Option.some.injEq] at found
        rw [← found, SortedMap.contains, SortedMap.get?_insert] at member
        split at member
        · rename_i same
          exact .inr (congrArg deleted (TombstoneKey.ofRef_inj.1 same).symm)
        · exact .inl ⟨held, graves, member⟩
  · rintro (buried | rfl)
    · exact write.buried_apply now buried
    · exact buried_apply_deleted fits now

end Write

/-- No write takes a table away. -/
theorem Database.Complete.apply {database : Database} {write : Write} (now : Int)
    (fits : write.Fits database) (complete : database.Complete) :
    (write.apply now database).Complete where
  tables kind := (write.isSome_table_apply fits now kind).trans (complete.tables kind)
  tombstones := (write.isSome_tombstones_apply now database).trans complete.tombstones

/-! ## Operations on rows that succeed -/

theorem bind_eq_ok {ε α β : Type} {first : Except ε α} {next : α → Except ε β} {value : β} :
    first >>= next = .ok value ↔ ∃ middle, first = .ok middle ∧ next middle = .ok value := by
  cases first with
  | error cause =>
      exact ⟨fun equal => (nomatch equal), fun ⟨_, equal, _⟩ => (nomatch equal)⟩
  | ok held =>
      exact ⟨fun equal => ⟨held, rfl, equal⟩, fun ⟨_, equal, rest⟩ => by cases equal; exact rest⟩

theorem bind_eq_error {ε α β : Type} {first : Except ε α} {next : α → Except ε β} {cause : ε} :
    first >>= next = .error cause ↔
      first = .error cause ∨ ∃ middle, first = .ok middle ∧ next middle = .error cause := by
  cases first with
  | error other =>
      refine ⟨fun equal => .inl (by cases equal; rfl), ?_⟩
      rintro (equal | ⟨_, equal, _⟩)
      · cases equal
        rfl
      · cases equal
  | ok held =>
      refine ⟨fun equal => .inr ⟨held, rfl, equal⟩, ?_⟩
      rintro (equal | ⟨_, equal, rest⟩)
      · cases equal
      · cases equal
        exact rest

theorem mapError_ok {ε ε' α : Type} (translate : ε → ε') (value : α) :
    (Except.ok value).mapError translate = .ok value := rfl

theorem mapError_error {ε ε' α : Type} (translate : ε → ε') (cause : ε) :
    (Except.error cause : Except ε α).mapError translate = .error (translate cause) := rfl

theorem mapError_eq_ok {ε ε' α : Type} {result : Except ε α} {translate : ε → ε'} {value : α} :
    result.mapError translate = .ok value ↔ result = .ok value := by
  cases result with
  | error cause => exact ⟨fun equal => (nomatch equal), fun equal => (nomatch equal)⟩
  | ok held => exact ⟨fun equal => by cases equal; rfl, fun equal => by cases equal; rfl⟩

theorem mapError_eq_error {ε ε' α : Type} {result : Except ε α} {translate : ε → ε'} {cause : ε'} :
    result.mapError translate = .error cause ↔
      ∃ behind, result = .error behind ∧ translate behind = cause := by
  cases result with
  | error other =>
      refine ⟨fun equal => ⟨other, rfl, by cases equal; rfl⟩, ?_⟩
      rintro ⟨_, equal, rfl⟩
      cases equal
      rfl
  | ok held =>
      refine ⟨fun equal => (nomatch equal), ?_⟩
      rintro ⟨_, equal, _⟩
      cases equal

theorem map_eq_error {ε α β : Type} {result : Except ε α} {change : α → β} {cause : ε} :
    result.map change = .error cause ↔ result = .error cause := by
  cases result with
  | error other => exact ⟨fun equal => by cases equal; rfl, fun equal => by cases equal; rfl⟩
  | ok held => exact ⟨fun equal => (nomatch equal), fun equal => (nomatch equal)⟩

/-- Results are compared by what they hold. -/
instance decidableEqExcept {ε α : Type} [DecidableEq ε] [DecidableEq α] : DecidableEq (Except ε α)
  | .ok first, .ok second =>
      decidable_of_iff (first = second) ⟨congrArg _, fun equal => by cases equal; rfl⟩
  | .error first, .error second =>
      decidable_of_iff (first = second) ⟨congrArg _, fun equal => by cases equal; rfl⟩
  | .ok _, .error _ | .error _, .ok _ => isFalse fun equal => nomatch equal

namespace Repository

theorem table_eq_ok {database : Database} {kind : Kind} {held : Table} :
    table database kind = .ok held ↔ database.tables.get? kind = some held := by
  rw [table, mapError_eq_ok, Database.rows]
  cases database.tables.get? kind with
  | none => exact ⟨fun equal => (nomatch equal), fun equal => (nomatch equal)⟩
  | some found => exact ⟨fun equal => by cases equal; rfl, fun equal => by cases equal; rfl⟩

theorem insert_eq_ok {database content : Database} {stored : StoredRecord}
    (done : insert database stored = .ok content) :
    ∃ held, database.tables.get? stored.ref.kind = some held ∧
      held.get? stored.ref.id = none ∧
      content = database.withTable stored.ref.kind (held.insert stored.ref.id (toRow stored)) := by
  obtain ⟨held, found, rest⟩ := bind_eq_ok.1 done
  refine ⟨held, table_eq_ok.1 found, ?_⟩
  cases free : held.get? stored.ref.id with
  | none =>
      simp only [SortedMap.contains, free, Option.isSome_none, Bool.false_eq_true, if_false]
        at rest
      cases rest
      exact ⟨rfl, rfl⟩
  | some row =>
      simp only [SortedMap.contains, free, Option.isSome_some, if_true] at rest
      cases rest

theorem update_of_row {database : Database} {stored : StoredRecord} {expected : Int}
    {held : Table} {row : Row} (found : database.tables.get? stored.ref.kind = some held)
    (inTable : held.get? stored.ref.id = some row) :
    update database stored expected =
      if row.version = expected then
        .ok (database.withTable stored.ref.kind (held.insert stored.ref.id (toRow stored)))
      else .error (.versionConflict stored.ref expected row.version) := by
  rw [update, table_eq_ok.2 found]
  simp only [bind, Except.bind, inTable]
  rfl

theorem update_eq_ok {database content : Database} {stored : StoredRecord} {expected : Int}
    (done : update database stored expected = .ok content) :
    ∃ held row, database.tables.get? stored.ref.kind = some held ∧
      held.get? stored.ref.id = some row := by
  obtain ⟨held, found, rest⟩ := bind_eq_ok.1 done
  cases inTable : held.get? stored.ref.id with
  | none =>
      simp only [inTable] at rest
      cases rest
  | some row => exact ⟨held, row, table_eq_ok.1 found, inTable⟩

theorem delete_eq_ok {database content : Database} {ref : Ref} {existed : Bool}
    (done : delete database ref = .ok (existed, content)) :
    ∃ held, database.tables.get? ref.kind = some held ∧
      existed = (held.get? ref.id).isSome ∧
      content = if existed then database.withTable ref.kind (held.erase ref.id) else database := by
  obtain ⟨held, found, rest⟩ := bind_eq_ok.1 done
  refine ⟨held, table_eq_ok.1 found, ?_⟩
  rw [SortedMap.contains] at rest
  cases inTable : (held.get? ref.id).isSome with
  | true =>
      rw [inTable, if_pos rfl] at rest
      cases rest
      exact ⟨rfl, rfl⟩
  | false =>
      rw [inTable, if_neg Bool.false_ne_true] at rest
      cases rest
      exact ⟨rfl, rfl⟩

theorem addTombstone_eq_ok {database content : Database} {now : Int} {ref : Ref}
    (done : addTombstone database now ref = .ok content) :
    ∃ tombstones, database.tombstones = some tombstones ∧
      content = { database with tombstones := some (tombstones.insert (.ofRef ref) now) } := by
  obtain ⟨tombstones, found, rest⟩ := bind_eq_ok.1 done
  refine ⟨tombstones, ?_, by cases rest; rfl⟩
  rw [tombstoneTable, mapError_eq_ok, Database.deletions] at found
  cases graves : database.tombstones with
  | none =>
      rw [graves] at found
      cases found
  | some held =>
      rw [graves] at found
      cases found
      rfl

end Repository

/-! ## What a write does to a handle -/

namespace Handle

/-- The handle after a write. -/
def wrote (handle : Handle) (write : Write) : Handle :=
  let written := handle.withContent (write.apply handle.now handle.content)
  let noted := match write with
    | .updated record => written.noteVersion record.ref (record.version - 1) record.version
    | .inserted _ | .deleted _ => written
  (noted.note write.event).record write.change

@[simp] theorem content_wrote (handle : Handle) (write : Write) :
    (handle.wrote write).content = write.apply handle.now handle.content := by
  cases write <;> rfl

@[simp] theorem savepoints_wrote (handle : Handle) (write : Write) :
    (handle.wrote write).connection.savepoints = handle.connection.savepoints := by
  cases write <;> rfl

@[simp] theorem depth_wrote (handle : Handle) (write : Write) :
    (handle.wrote write).depth = handle.depth := by
  cases write <;> rfl

@[simp] theorem changes_wrote (handle : Handle) (write : Write) :
    (handle.wrote write).changes = handle.changes.map fun stack => stack.record write.change := by
  cases write <;> rfl

theorem undone_wrote (handle : Handle) (write : Write) :
    (handle.wrote write).undone =
      match write with
      | .updated record => handle.undone.erase record.ref
      | .inserted _ | .deleted _ => handle.undone := by
  cases write <;> rfl

/-- A write that is answered has succeeded. -/
theorem settle_eq_ok {α : Type} {handle : Handle} {done : Except StoreError (α × Handle)}
    {answer : α} (given : (handle.settle done).1 = .ok answer) :
    ∃ after, done = .ok (answer, after) ∧ (handle.settle done).2 = after := by
  cases done with
  | error cause => cases given
  | ok result =>
      cases given
      exact ⟨result.2, rfl, rfl⟩

/-- A new record is stored as version 1 where there is no row. -/
theorem insert_eq_ok {handle after : Handle} {kind : Kind} {body stored : kind.Body}
    (done : handle.insert kind body = .ok (stored, after)) :
    stored = kind.withVersion body 1 ∧ (Write.inserted ⟨kind, stored⟩).Fits handle.content ∧
      after = handle.wrote (.inserted ⟨kind, stored⟩) := by
  obtain ⟨content, inserted, rest⟩ := bind_eq_ok.1 done
  cases rest
  obtain ⟨held, found, free, after⟩ := Repository.insert_eq_ok (mapError_eq_ok.1 inserted)
  have table : handle.content.tables.get? kind = some held := found
  refine ⟨rfl, .inserted found ?_ (Kind.version_withVersion kind body 1), ?_⟩
  · exact (Database.row?_of_table found).trans free
  · have put : handle.content.put ⟨kind, kind.withVersion body 1⟩ = content := by
      rw [Database.put, table, after]
      rfl
    rw [wrote, Write.apply, put]
    rfl

/-- Replacing a record is the repository's update at the expected version, and then the rest. -/
theorem update_eq (handle : Handle) (kind : Kind) (body : kind.Body) {expected : Int}
    (expects : handle.expectedVersion (kind.ref body) (kind.version body) = expected) :
    handle.update kind body =
      (lift (Repository.update handle.content
        (encode kind (kind.withVersion body (expected + 1))) expected)).map fun content =>
          (kind.withVersion body (expected + 1),
            (((handle.withContent content).noteVersion (kind.ref body) expected (expected + 1)).note
              (.updated kind (expected + 1))).record
                (.updated ⟨kind, kind.withVersion body (expected + 1)⟩)) := by
  subst expects
  rfl

/-- **What replacing a record comes to where there is a row.** -/
theorem update_of_row {handle : Handle} {kind : Kind} {body : kind.Body} {row : Row}
    {expected : Int} (found : handle.content.row? (kind.ref body) = some row)
    (expects : handle.expectedVersion (kind.ref body) (kind.version body) = expected) :
    handle.update kind body =
      if row.version = expected then
        .ok (kind.withVersion body (expected + 1),
          handle.wrote (.updated ⟨kind, kind.withVersion body (expected + 1)⟩))
      else .error (.versionConflict (kind.ref body) expected row.version) := by
  obtain ⟨held, table, inTable⟩ := Database.table_of_row found
  have address := Kind.ref_withVersion kind body (expected + 1)
  have updated : Repository.update handle.content
      (encode kind (kind.withVersion body (expected + 1))) expected = _ :=
    Repository.update_of_row ((congrArg _ (congrArg Ref.kind address)).trans table)
      ((congrArg held.get? (congrArg Ref.id address)).trans inTable)
  rw [update_eq handle kind body expects, updated]
  by_cases same : row.version = expected
  · rw [if_pos same, if_pos same]
    have inKind : handle.content.tables.get? kind = some held := table
    have back : expected + 1 - 1 = expected := by omega
    rw [wrote, Write.apply, Database.put, inKind, Write.event, Record.version,
      Kind.version_withVersion, back, Record.ref, address]
    rfl
  · rw [if_neg same, if_neg same]
    exact congrArg (fun ref => Except.error (StoreError.versionConflict ref expected row.version))
      address

/-- Without a row there is nothing to update. -/
theorem update_of_no_row {handle : Handle} {kind : Kind} {body : kind.Body}
    (table : (handle.content.tables.get? kind).isSome)
    (absent : handle.content.row? (kind.ref body) = none) :
    handle.update kind body = .error (.notFound (kind.ref body)) := by
  obtain ⟨held, found⟩ := Option.isSome_iff_exists.1 table
  have address (version : Int) := Kind.ref_withVersion kind body version
  have table : Repository.table handle.content (kind.ref body).kind = .ok held :=
    Repository.table_eq_ok.2 found
  have inTable : held.get? (kind.ref body).id = none :=
    (Database.row?_of_table found).symm.trans absent
  rw [update_eq handle kind body rfl, Repository.update]
  simp only [encode, address, bind, Except.bind, table, inTable]
  rfl

/-- A record is replaced where its row has the expected version, and moves to the next one. -/
theorem update_eq_ok {handle after : Handle} {kind : Kind} {body stored : kind.Body}
    (done : handle.update kind body = .ok (stored, after)) :
    stored = kind.withVersion body
        (handle.expectedVersion (kind.ref body) (kind.version body) + 1) ∧
      (Write.updated ⟨kind, stored⟩).Fits handle.content ∧
      after = handle.wrote (.updated ⟨kind, stored⟩) := by
  have lifted := done
  rw [update_eq handle kind body rfl] at lifted
  cases written : Repository.update handle.content (encode kind (kind.withVersion body
      (handle.expectedVersion (kind.ref body) (kind.version body) + 1)))
      (handle.expectedVersion (kind.ref body) (kind.version body)) with
  | error cause =>
      rw [written] at lifted
      cases lifted
  | ok content =>
      obtain ⟨held, row, table, inTable⟩ := Repository.update_eq_ok written
      have inDatabase := (Database.row?_of_table table).trans inTable
      have found : handle.content.row? (kind.ref body) = some row := by
        rw [← Kind.ref_withVersion kind body]
        exact inDatabase
      rw [update_of_row found rfl] at done
      split at done
      · rename_i same
        cases done
        refine ⟨rfl, .updated inDatabase ?_, rfl⟩
        rw [same]
        exact Kind.version_withVersion kind body _
      · cases done

/-- **What was stored has its row.** -/
theorem row?_of_insert {handle : Handle} {kind : Kind} {body stored : kind.Body}
    (answer : (handle.perform (.insert kind body)).1 = .ok stored) :
    (handle.perform (.insert kind body)).2.content.row? (kind.ref stored) =
      some (Record.row ⟨kind, stored⟩) := by
  obtain ⟨after, done, moved⟩ := settle_eq_ok answer
  obtain ⟨_, fits, rfl⟩ := insert_eq_ok done
  rw [perform, moved, content_wrote]
  exact Write.row?_apply_self fits handle.now

theorem row?_of_update {handle : Handle} {kind : Kind} {body stored : kind.Body}
    (answer : (handle.perform (.update kind body)).1 = .ok stored) :
    (handle.perform (.update kind body)).2.content.row? (kind.ref stored) =
      some (Record.row ⟨kind, stored⟩) := by
  obtain ⟨after, done, moved⟩ := settle_eq_ok answer
  obtain ⟨_, fits, rfl⟩ := update_eq_ok done
  rw [perform, moved, content_wrote]
  exact Write.row?_apply_self fits handle.now

/-- Deleting tells whether there was a row; if there was none, nothing happens. -/
theorem delete_eq_ok {handle after : Handle} {kind : Kind} {id : String} {existed : Bool}
    (done : handle.delete kind id = .ok (existed, after)) :
    (existed = true ∧ (Write.deleted ⟨kind, id⟩).Fits handle.content ∧
      after = handle.wrote (.deleted ⟨kind, id⟩)) ∨ (existed = false ∧ after = handle) := by
  obtain ⟨⟨gone, content⟩, deleted, rest⟩ := bind_eq_ok.1 done
  obtain ⟨held, found, isRow, without⟩ := Repository.delete_eq_ok (mapError_eq_ok.1 deleted)
  cases gone with
  | false =>
      cases rest
      exact .inr ⟨rfl, rfl⟩
  | true =>
      obtain ⟨buried, added, rest⟩ := bind_eq_ok.1 rest
      cases rest
      obtain ⟨tombstones, graves, after⟩ := Repository.addTombstone_eq_ok (mapError_eq_ok.1 added)
      obtain ⟨row, inTable⟩ := Option.isSome_iff_exists.1 isRow.symm
      rw [if_pos rfl] at without
      rw [without] at graves
      refine .inl ⟨rfl, .deleted ((Database.row?_of_table found).trans inTable) graves, ?_⟩
      have table : handle.content.tables.get? kind = some held := found
      have graves' : handle.content.tombstones = some tombstones := graves
      rw [wrote, Write.apply, Database.bury, table, graves', after, without]
      rfl

theorem existed_of_delete {handle after : Handle} {kind : Kind} {id : String} {existed : Bool}
    (done : handle.delete kind id = .ok (existed, after)) :
    existed = (handle.content.row? ⟨kind, id⟩).isSome := by
  obtain ⟨⟨gone, content⟩, deleted, rest⟩ := bind_eq_ok.1 done
  obtain ⟨held, found, isRow, _⟩ := Repository.delete_eq_ok (mapError_eq_ok.1 deleted)
  have same : existed = gone := by
    cases gone with
    | false => cases rest; rfl
    | true =>
        obtain ⟨_, _, rest⟩ := bind_eq_ok.1 rest
        cases rest
        rfl
  rw [same, isRow, Database.row?_of_table found]

/-! ## Writes that fit -/

/-- **A write that fits succeeds.** -/
theorem insert_of_fits {handle : Handle} {kind : Kind} {body : kind.Body}
    (fits : (Write.inserted ⟨kind, kind.withVersion body 1⟩).Fits handle.content) :
    handle.insert kind body = .ok (kind.withVersion body 1,
      handle.wrote (.inserted ⟨kind, kind.withVersion body 1⟩)) := by
  cases fits with
  | @inserted _ table found free _ =>
      have vacant : table.contains (kind.id (kind.withVersion body 1)) = false := by
        rw [Database.row?_of_table found] at free
        exact congrArg Option.isSome free
      have inserted : Repository.insert handle.content (encode kind (kind.withVersion body 1)) =
          .ok (handle.content.withTable kind (table.insert (kind.id (kind.withVersion body 1))
            (Repository.toRow (encode kind (kind.withVersion body 1))))) := by
        refine bind_eq_ok.2 ⟨table, Repository.table_eq_ok.2 found, ?_⟩
        change (if table.contains (kind.id (kind.withVersion body 1)) then _ else _) = _
        rw [vacant]
        rfl
      have done : ∃ stored after, handle.insert kind body = .ok (stored, after) :=
        ⟨_, _, bind_eq_ok.2 ⟨_, mapError_eq_ok.2 inserted, rfl⟩⟩
      obtain ⟨stored, after, done⟩ := done
      obtain ⟨rfl, _, rfl⟩ := insert_eq_ok done
      exact done

/-- Where there is no row a new object is stored. -/
theorem insert_of_free {handle : Handle} {kind : Kind} {body : kind.Body}
    (tabled : (handle.content.tables.get? kind).isSome)
    (free : handle.content.row? (kind.ref body) = none) :
    handle.insert kind body = .ok (kind.withVersion body 1,
      handle.wrote (.inserted ⟨kind, kind.withVersion body 1⟩)) := by
  obtain ⟨table, found⟩ := Option.isSome_iff_exists.1 tabled
  exact insert_of_fits (.inserted found ((congrArg _ (kind.ref_withVersion body 1)).trans free)
    (kind.version_withVersion body 1))

/-- Where there is a row no other one is stored. -/
theorem insert_of_taken {handle : Handle} {kind : Kind} {body : kind.Body} {row : Row}
    (taken : handle.content.row? (kind.ref body) = some row) :
    handle.insert kind body = .error (.duplicateKey (kind.ref body)) := by
  obtain ⟨table, held, inTable⟩ := Database.table_of_row taken
  have address : (encode kind (kind.withVersion body 1)).ref = kind.ref body :=
    kind.ref_withVersion body 1
  have refused : Repository.insert handle.content (encode kind (kind.withVersion body 1)) =
      .error (RepositoryError.duplicateKey (kind.ref body)) := by
    have present : table.contains (kind.ref body).id = true := congrArg Option.isSome inTable
    refine bind_eq_error.2 (.inr ⟨table, Repository.table_eq_ok.2 held, ?_⟩)
    rw [address, present]
    rfl
  exact bind_eq_error.2 (.inl (mapError_eq_error.2 ⟨_, refused, rfl⟩))

theorem update_of_fits {handle : Handle} {kind : Kind} {body : kind.Body} {expected : Int}
    (expects : handle.expectedVersion (kind.ref body) (kind.version body) = expected)
    (fits : (Write.updated ⟨kind, kind.withVersion body (expected + 1)⟩).Fits handle.content) :
    handle.update kind body = .ok (kind.withVersion body (expected + 1),
      handle.wrote (.updated ⟨kind, kind.withVersion body (expected + 1)⟩)) := by
  cases fits with
  | @updated _ row found next =>
      have address : Record.ref ⟨kind, kind.withVersion body (expected + 1)⟩ = kind.ref body :=
        Kind.ref_withVersion kind body _
      have version : Record.version ⟨kind, kind.withVersion body (expected + 1)⟩ = expected + 1 :=
        Kind.version_withVersion kind body _
      rw [address] at found
      rw [update_of_row found expects, if_pos (by omega)]

theorem delete_of_fits {handle : Handle} {kind : Kind} {id : String}
    (fits : (Write.deleted ⟨kind, id⟩).Fits handle.content) :
    handle.delete kind id = .ok (true, handle.wrote (.deleted ⟨kind, id⟩)) := by
  cases fits with
  | @deleted _ row tombstones found graves =>
      obtain ⟨table, held, inTable⟩ := Database.table_of_row found
      have deleted : Repository.delete handle.content ⟨kind, id⟩ =
          .ok (true, handle.content.withTable kind (table.erase id)) := by
        refine bind_eq_ok.2 ⟨table, Repository.table_eq_ok.2 held, ?_⟩
        rw [if_pos (by rw [SortedMap.contains, inTable]; rfl)]
        rfl
      have graves' : Repository.tombstoneTable (handle.content.withTable kind (table.erase id)) =
          .ok tombstones := by
        have same : (handle.content.withTable kind (table.erase id)).tombstones = _ := graves
        rw [Repository.tombstoneTable, Database.deletions, same]
        rfl
      have done : ∃ after, handle.delete kind id = .ok (true, after) :=
        ⟨_, bind_eq_ok.2 ⟨_, mapError_eq_ok.2 deleted,
          bind_eq_ok.2 ⟨_, mapError_eq_ok.2 (bind_eq_ok.2 ⟨_, graves', rfl⟩), rfl⟩⟩⟩
      obtain ⟨after, done⟩ := done
      obtain ⟨_, _, rfl⟩ | ⟨missing, _⟩ := delete_eq_ok done
      · exact done
      · cases missing

/-- Where there is a row it is deleted. -/
theorem delete_of_row {handle : Handle} {kind : Kind} {id : String} {row : Row}
    (found : handle.content.row? ⟨kind, id⟩ = some row)
    (graves : handle.content.tombstones.isSome) :
    handle.delete kind id = .ok (true, handle.wrote (.deleted ⟨kind, id⟩)) := by
  obtain ⟨tombstones, held⟩ := Option.isSome_iff_exists.1 graves
  exact delete_of_fits (.deleted found held)

/-- Where there is nothing to delete nothing is done. -/
theorem delete_of_vacant {handle : Handle} {kind : Kind} {id : String} {table : Table}
    (held : handle.content.tables.get? kind = some table)
    (vacant : handle.content.row? ⟨kind, id⟩ = none) :
    handle.delete kind id = .ok (false, handle) := by
  rw [Database.row?_of_table held] at vacant
  have missing : table.contains id = false := congrArg Option.isSome vacant
  have deleted : Repository.delete handle.content ⟨kind, id⟩ = .ok (false, handle.content) := by
    refine bind_eq_ok.2 ⟨table, Repository.table_eq_ok.2 held, ?_⟩
    rw [if_neg (by rw [missing]; exact Bool.false_ne_true)]
    rfl
  exact bind_eq_ok.2 ⟨_, mapError_eq_ok.2 deleted, rfl⟩

end Handle

end ScopedStore
