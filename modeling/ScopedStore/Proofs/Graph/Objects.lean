import ScopedStore.Proofs.Readings
import ScopedStore.Proofs.Transactions

/-!
# The objects of a database

Rows hold objects as text. What the graph looks like is said of the objects themselves, so a
database is compared with a table of objects by address: it holds them if its rows are what is
written of them and every one stands at its own address (`Database.Holds`).

A write changes the objects as it changes the rows (`Database.Holds.wrote`). An object that is no
block is read of a row exactly as it was written, so reading gives what is held
(`Database.Holds.object`), and work that reads and writes can be followed on the objects alone.
-/

set_option autoImplicit false

namespace ScopedStore

/-- Objects by their addresses. -/
abbrev Objects : Type := Ref → Option Record

namespace Objects

/-- The objects with one more, or with one in the place of another one. -/
def put (objects : Objects) (record : Record) : Objects := fun ref =>
  if ref = record.ref then some record else objects ref

/-- The objects without one. -/
def erase (objects : Objects) (gone : Ref) : Objects := fun ref =>
  if ref = gone then none else objects ref

/-- The objects after a write. -/
def after (objects : Objects) : Write → Objects
  | .inserted record | .updated record => objects.put record
  | .deleted ref => objects.erase ref

variable {objects : Objects} {record : Record} {ref gone : Ref}

@[simp] theorem put_self : objects.put record record.ref = some record := if_pos rfl

theorem put_of_ne (other : ref ≠ record.ref) : objects.put record ref = objects ref := if_neg other

theorem put_of_kind {kind : Kind} (other : kind ≠ record.kind) (id : String) :
    objects.put record ⟨kind, id⟩ = objects ⟨kind, id⟩ :=
  put_of_ne fun same => other (congrArg Ref.kind same)

theorem put_eq_some {held : Record} (found : objects.put record ref = some held) :
    ref = record.ref ∧ record = held ∨ ref ≠ record.ref ∧ objects ref = some held := by
  by_cases same : ref = record.ref
  · subst same
    exact .inl ⟨rfl, by simpa using found⟩
  · exact .inr ⟨same, by rwa [put_of_ne same] at found⟩

theorem isSome_put (present : (objects ref).isSome) : (objects.put record ref).isSome := by
  rw [put]
  split
  · rfl
  · exact present

@[simp] theorem erase_self : objects.erase gone gone = none := if_pos rfl

theorem erase_of_ne (other : ref ≠ gone) : objects.erase gone ref = objects ref := if_neg other

/-- Nothing changes where nothing is taken away. -/
theorem erase_of_none (absent : objects gone = none) : objects.erase gone = objects := by
  funext ref
  rw [erase]
  split
  · rename_i same
    rw [same, absent]
  · rfl

theorem erase_eq_some {held : Record} (found : objects.erase gone ref = some held) :
    ref ≠ gone ∧ objects ref = some held := by
  rw [erase] at found
  split at found
  · cases found
  · exact ⟨‹_›, found⟩

/-- The object of a kind under an id. -/
def find (objects : Objects) (kind : Kind) (id : String) : Option kind.Body :=
  (objects ⟨kind, id⟩).bind (Record.as? kind)

section Find

variable {kind : Kind} {id : String} {body held : kind.Body}

theorem find_eq_some : objects.find kind id = some body ↔ objects ⟨kind, id⟩ = some ⟨kind, body⟩ := by
  constructor
  · intro found
    obtain ⟨⟨other, body⟩, stored, same⟩ := Option.bind_eq_some_iff.1 found
    rw [Record.as?] at same
    split at same
    · rename_i kinds
      subst kinds
      cases same
      exact stored
    · cases same
  · intro stored
    rw [find, stored, Option.bind_some, Record.as?]
    exact dif_pos rfl

theorem find_of_none (absent : objects ⟨kind, id⟩ = none) : objects.find kind id = none := by
  rw [find, absent]
  rfl

@[simp] theorem find_put :
    (objects.put ⟨kind, body⟩).find kind id =
      if id = kind.id body then some body else objects.find kind id := by
  by_cases same : id = kind.id body
  · rw [if_pos same, same]
    exact find_eq_some.2 put_self
  · rw [if_neg same, find, put_of_ne fun refs => same (congrArg Ref.id refs)]
    rfl

@[simp] theorem find_put_of_kind (other : kind ≠ record.kind) :
    (objects.put record).find kind id = objects.find kind id := by
  rw [find, put_of_kind other]
  rfl

@[simp] theorem find_erase {gone : String} :
    (objects.erase ⟨kind, gone⟩).find kind id =
      if id = gone then none else objects.find kind id := by
  by_cases same : id = gone
  · rw [if_pos same, same]
    exact find_of_none erase_self
  · rw [if_neg same, find, erase_of_ne fun refs => same (congrArg Ref.id refs)]
    rfl

@[simp] theorem find_erase_of_kind (other : kind ≠ gone.kind) :
    (objects.erase gone).find kind id = objects.find kind id := by
  rw [find, erase_of_ne fun refs => other (congrArg Ref.kind refs)]
  rfl

end Find

end Objects

namespace Database

/-- The rows of the database hold the objects, every one at its own address. -/
structure Holds (database : Database) (objects : Objects) : Prop where
  row : ∀ ref, database.row? ref = (objects ref).map Record.row
  address : ∀ {ref record}, objects ref = some record → record.ref = ref

/-- What is true of every row is true of all that is in the tables. -/
theorem forall_row_iff {database : Database} {property : Row → Prop} :
    (∀ ref row, database.row? ref = some row → property row) ↔
      ∀ table ∈ database.tables.entries, ∀ row ∈ table.2.entries, property row.2 := by
  constructor
  · rintro everywhere ⟨kind, table⟩ held ⟨id, row⟩ stored
    have found := (database.tables.get?_eq_some_iff kind table).2 held
    have inTable := (table.get?_eq_some_iff id row).2 stored
    have address : database.row? ⟨kind, id⟩ = table.get? id := row?_of_table found
    exact everywhere ⟨kind, id⟩ row (address.trans inTable)
  · intro everywhere ref row found
    obtain ⟨table, tabled, stored⟩ := table_of_row found
    exact everywhere (ref.kind, table)
      ((database.tables.get?_eq_some_iff ref.kind table).1 tabled)
      (ref.id, row) ((table.get?_eq_some_iff ref.id row).1 stored)

/-- No version in the database has outgrown 64 bits. -/
def VersionsFit (database : Database) : Prop := ∀ ref row, database.row? ref = some row →
  -Bounds.signed64 ≤ row.version ∧ row.version < Bounds.signed64

/-- Every version in the database has 64 bits, and so has the next one. -/
def VersionsHaveNext (database : Database) : Prop := ∀ ref row, database.row? ref = some row →
  -Bounds.signed64 ≤ row.version ∧ HasNextVersion row.version

theorem VersionsHaveNext.fit {database : Database} (next : database.VersionsHaveNext) :
    database.VersionsFit := by
  intro ref row found
  obtain ⟨above, below⟩ := next ref row found
  exact ⟨above, Int.lt_trans (Int.lt_succ row.version) below⟩

instance (database : Database) : Decidable database.VersionsFit :=
  decidable_of_iff _ forall_row_iff.symm

instance (database : Database) : Decidable database.VersionsHaveNext :=
  decidable_of_iff _ forall_row_iff.symm

theorem holds_vacant : vacant.Holds fun _ => none where
  row := row?_vacant
  address found := nomatch found

namespace Holds

variable {database : Database} {objects : Objects} {handle : Handle} {kind : Kind} {id : String}

theorem isSome (holds : database.Holds objects) (ref : Ref) :
    (objects ref).isSome = (database.row? ref).isSome := by
  simp [holds.row ref]

theorem versionFits (holds : database.Holds objects) (fit : database.VersionsFit) {ref : Ref}
    {record : Record} (found : objects ref = some record) :
    record.kind.VersionFits record.body := by
  refine fit ref record.row ?_
  rw [holds.row, found]
  rfl

/-- **A write changes the objects as it changes the rows.** -/
theorem wrote (holds : database.Holds objects) {write : Write} (fits : write.Fits database)
    (now : Int) : (write.apply now database).Holds (objects.after write) := by
  constructor
  · intro ref
    rw [Write.row?_apply fits]
    cases write with
    | inserted record | updated record =>
        by_cases here : ref = record.ref
        · simp [Objects.after, Write.ref, Write.row?, here]
        · simp [Objects.after, Objects.put_of_ne here, Write.ref, here, holds.row]
    | deleted gone =>
        by_cases here : ref = gone
        · simp [Objects.after, Write.ref, Write.row?, here]
        · simp [Objects.after, Objects.erase_of_ne here, Write.ref, here, holds.row]
  · intro ref record found
    cases write with
    | inserted new | updated new =>
        rcases Objects.put_eq_some found with ⟨here, rfl⟩ | ⟨_, before⟩
        · exact here.symm
        · exact holds.address before
    | deleted gone => exact holds.address (Objects.erase_eq_some found).2

/-- What is held under a kind is an object of that kind, with the id under which it is held. -/
theorem exists_body (holds : database.Holds objects) (present : (objects ⟨kind, id⟩).isSome) :
    ∃ body : kind.Body, objects ⟨kind, id⟩ = some ⟨kind, body⟩ ∧ kind.id body = id := by
  obtain ⟨⟨kind', body⟩, found⟩ := Option.isSome_iff_exists.1 present
  have address := holds.address found
  obtain rfl : kind' = kind := congrArg Ref.kind address
  exact ⟨body, found, congrArg Ref.id address⟩

/-- **What is read is held.** -/
theorem object (holds : handle.content.Holds objects) (noBlock : kind ≠ .block)
    {body : kind.Body} (given : handle.get kind id = .ok (some body)) :
    objects ⟨kind, id⟩ = some ⟨kind, body⟩ := by
  obtain ⟨row, stored, read⟩ := Handle.get_eq_some given
  have present : (objects ⟨kind, id⟩).isSome := by rw [holds.isSome, stored]; rfl
  obtain ⟨held, found, _⟩ := holds.exists_body present
  rw [holds.row, found] at stored
  cases stored
  rw [found, Handle.eq_of_readRow noBlock read]

/-- What is held is read, as long as it can be read back. -/
theorem get_of_exact (holds : handle.content.Holds objects) (fit : handle.content.VersionsFit)
    {body : kind.Body} (found : objects ⟨kind, id⟩ = some ⟨kind, body⟩)
    (exact : kind.FreeData Json.Exact body)
    (shallow : (kind.bodyFormat.write body).depth ≤ Json.maxLevels) :
    handle.get kind id = .ok (some body) := by
  have stored := holds.row ⟨kind, id⟩
  rw [found] at stored
  rw [Handle.get_of_row stored, Handle.readRow_row (holds.versionFits fit found) exact,
    if_pos shallow]
  rfl

/-- What is held is read, as long as no version has outgrown 64 bits. -/
theorem get (holds : handle.content.Holds objects) (fit : handle.content.VersionsFit)
    (noBlock : kind ≠ .block) {body : kind.Body}
    (found : objects ⟨kind, id⟩ = some ⟨kind, body⟩) : handle.get kind id = .ok (some body) :=
  holds.get_of_exact fit found (Kind.freeData_of_noBlock noBlock)
    (Nat.le_trans (kind.depth_write_le body noBlock) (by decide))

/-- **What is read under an id is what is held there**, if there is anything. -/
theorem get_find (holds : handle.content.Holds objects) (fit : handle.content.VersionsFit)
    (tabled : (handle.content.tables.get? kind).isSome)
    (readable : ∀ body, objects.find kind id = some body → kind.FreeData Json.Exact body ∧
      (kind.bodyFormat.write body).depth ≤ Json.maxLevels) :
    handle.get kind id = .ok (objects.find kind id) := by
  obtain ⟨table, tabled⟩ := Option.isSome_iff_exists.1 tabled
  cases there : objects ⟨kind, id⟩ with
  | none =>
      have row : handle.content.row? ⟨kind, id⟩ = table.get? id := row?_of_table tabled
      have absent : table.get? id = none := by
        rw [← row, holds.row, there]
        rfl
      rw [Handle.get_of_table tabled, absent, Objects.find_of_none there]
      rfl
  | some record =>
      obtain ⟨body, found, _⟩ := holds.exists_body (Option.isSome_of_mem there)
      have present := Objects.find_eq_some.2 found
      obtain ⟨exact, shallow⟩ := readable body present
      rw [present, holds.get_of_exact fit found exact shallow]

/-- The same of all kinds but one. -/
theorem get_find_of_noBlock (holds : handle.content.Holds objects)
    (fit : handle.content.VersionsFit) (noBlock : kind ≠ .block)
    (tabled : (handle.content.tables.get? kind).isSome) :
    handle.get kind id = .ok (objects.find kind id) :=
  holds.get_find fit tabled fun body _ => ⟨Kind.freeData_of_noBlock noBlock,
    Nat.le_trans (kind.depth_write_le body noBlock) (by decide)⟩

/-- All objects of a kind are read, if there is one. -/
theorem exists_list (holds : handle.content.Holds objects) (fit : handle.content.VersionsFit)
    (noBlock : kind ≠ .block) (present : (objects ⟨kind, id⟩).isSome) :
    ∃ bodies, handle.list kind = .ok bodies := by
  rw [holds.isSome, Option.isSome_iff_exists] at present
  obtain ⟨_, row⟩ := present
  obtain ⟨table, tabled, _⟩ := table_of_row row
  refine Handle.exists_list_iff.2 fun other => ?_
  exact ⟨_, holds.get_find_of_noBlock fit noBlock (Option.isSome_of_mem tabled)⟩

/-- Where no object is counted there is none, and otherwise there is one. -/
theorem of_count (holds : handle.content.Holds objects) {number : Nat}
    (counted : handle.count kind = .ok number) :
    (number = 0 → ∀ id, objects ⟨kind, id⟩ = none) ∧
      (0 < number → ∃ id, (objects ⟨kind, id⟩).isSome) := by
  obtain ⟨table, found, size⟩ := bind_eq_ok.1 (mapError_eq_ok.1 counted)
  have size : table.entries.length = number := Except.ok.inj size
  have row (id : String) : (objects ⟨kind, id⟩).map Record.row = table.get? id :=
    (holds.row ⟨kind, id⟩).symm.trans (row?_of_table (Repository.table_eq_ok.1 found))
  refine ⟨fun none id => ?_, fun some => ?_⟩
  · have empty : table.entries = [] := List.eq_nil_of_length_eq_zero (size.trans none)
    have nothing : table.get? id = .none := by
      rw [SortedMap.get?, empty]
      rfl
    exact Option.map_eq_none_iff.1 ((row id).trans nothing)
  · obtain ⟨⟨id, held⟩, member⟩ := List.exists_mem_of_length_pos (size ▸ some)
    refine ⟨id, ?_⟩
    rw [← Option.isSome_map, row, (table.get?_eq_some_iff id held).2 member]
    rfl

end Holds

end Database

/-! ## Following work on the objects -/

/-- Work has led from one database to another one, and from the objects of the first to those of
the second: what had a tombstone has one, and so has every object that is gone. -/
structure Database.Passes (before : Database) (objects : Objects) (after : Database)
    (later : Objects) : Prop where
  holds : after.Holds later
  buried : ∀ ref, before.Buried ref → after.Buried ref
  gone : ∀ ref, (objects ref).isSome → later ref = none → after.Buried ref
  tables : ∀ kind, (after.tables.get? kind).isSome = (before.tables.get? kind).isSome

namespace Database.Passes

variable {before between after : Database} {objects middle later : Objects}

theorem refl (holds : before.Holds objects) : before.Passes objects before objects where
  holds := holds
  buried _ dead := dead
  gone ref present absent := by
    rw [absent] at present
    cases present
  tables _ := rfl

theorem trans (first : before.Passes objects between middle)
    (second : between.Passes middle after later) : before.Passes objects after later where
  holds := second.holds
  buried ref dead := second.buried ref (first.buried ref dead)
  gone ref present absent := by
    cases found : middle ref with
    | some record => exact second.gone ref (Option.isSome_of_mem found) absent
    | none => exact second.buried ref (first.gone ref present found)
  tables kind := (second.tables kind).trans (first.tables kind)

/-- A record is put into the place of another one, or into a free place. -/
theorem put (holds : before.Holds objects) {write : Write} (fits : write.Fits before) (now : Int)
    {record : Record} (puts : objects.after write = objects.put record) :
    before.Passes objects (write.apply now before) (objects.put record) where
  holds := puts ▸ holds.wrote fits now
  buried _ := write.buried_apply now
  gone ref present absent := by
    have kept : (objects.put record ref).isSome := Objects.isSome_put present
    rw [absent] at kept
    cases kept
  tables := Write.isSome_table_apply fits now

end Database.Passes

namespace Transaction

variable {handle after : Handle} {objects : Objects} {kind : Kind}

/-- What has to exist is held. -/
theorem holds_mustGet (holds : handle.content.Holds objects) (noBlock : kind ≠ .block)
    {id : String} {body : kind.Body} (given : Gives (mustGet kind id) handle body after) :
    objects (Record.ref ⟨kind, body⟩) = some ⟨kind, body⟩ ∧ kind.id body = id ∧ after = handle := by
  obtain ⟨read, same⟩ := gives_mustGet.1 given
  have found := holds.object noBlock read
  have address := holds.address found
  exact ⟨address ▸ found, congrArg Ref.id address, same⟩

variable {body stored : kind.Body}

/-- A new object is stored with version 1 in a free place. -/
theorem passes_insert (holds : handle.content.Holds objects)
    (given : Gives (ask (.insert kind body)) handle stored after) :
    stored = kind.withVersion body 1 ∧ objects (Record.ref ⟨kind, stored⟩) = none ∧
      handle.content.Passes objects after.content (objects.put ⟨kind, stored⟩) ∧
      after.ids = handle.ids := by
  obtain ⟨versioned, fits, rfl⟩ := gives_insert given
  refine ⟨versioned, ?_, ?_, rfl⟩
  · cases fits with
    | inserted _ free _ => exact Option.map_eq_none_iff.1 ((holds.row _).symm.trans free)
  · rw [Handle.content_wrote]
    exact .put holds fits handle.now rfl

/-- A new object is stored under the next id. -/
theorem passes_new {β : Type} {result : β} {build : String → kind.Body}
    {next : kind.Body → Transaction β} {ids : IdSource} (holds : handle.content.Holds objects)
    (source : handle.ids = ids) (given :
      Gives (draw >>= fun id => ask (.insert kind (build id)) >>= next) handle result after) :
    let new := kind.withVersion (build ids.draw.1) 1
    objects (Record.ref ⟨kind, new⟩) = none ∧ ∃ between : Handle,
      handle.content.Passes objects between.content (objects.put ⟨kind, new⟩) ∧
      between.ids = ids.draw.2 ∧ Gives (next new) between result after := by
  subst source
  obtain ⟨id, drew, drawn, rest⟩ := gives_bind.1 given
  cases drawn
  obtain ⟨stored, between, inserted, rest⟩ := gives_bind.1 rest
  have held : ({ handle with ids := handle.ids.draw.2 } : Handle).content.Holds objects := holds
  obtain ⟨rfl, free, passes, ids⟩ := passes_insert held inserted
  exact ⟨free, between, passes, ids, rest⟩

/-- An object is replaced by one with the next version. -/
theorem passes_update (holds : handle.content.Holds objects) {held : kind.Body}
    (given : Gives (ask (.update kind body)) handle stored after)
    (found : objects ⟨kind, kind.id body⟩ = some ⟨kind, held⟩) :
    stored = kind.withVersion body (kind.version held + 1) ∧
      handle.content.Passes objects after.content (objects.put ⟨kind, stored⟩) := by
  obtain ⟨⟨version, rfl⟩, fits, rfl⟩ := gives_update given
  refine ⟨?_, ?_⟩
  · cases fits with
    | @updated record row stored next =>
        have address : Record.ref ⟨kind, kind.withVersion body version⟩ = ⟨kind, kind.id body⟩ :=
          kind.ref_withVersion body version
        rw [holds.row, address, found] at stored
        cases stored
        have next : version = kind.version held + 1 := (kind.version_withVersion body version) ▸ next
        rw [next]
  · rw [Handle.content_wrote]
    exact .put holds fits handle.now rfl

/-- What was held is gone after it was deleted, and it has a tombstone. -/
theorem passes_delete (holds : handle.content.Holds objects) {id : String} {existed : Bool}
    (given : Gives (ask (.delete kind id)) handle existed after) :
    handle.content.Passes objects after.content (objects.erase ⟨kind, id⟩) := by
  rcases gives_delete given with ⟨_, fits, rfl⟩ | ⟨_, absent, rfl⟩
  · rw [Handle.content_wrote]
    refine ⟨holds.wrote fits handle.now, fun _ => Write.buried_apply _ handle.now, ?_,
      Write.isSome_table_apply fits handle.now⟩
    intro ref present absent
    by_cases same : ref = ⟨kind, id⟩
    · exact same ▸ Write.buried_apply_deleted fits handle.now
    · rw [Objects.erase_of_ne same] at absent
      rw [absent] at present
      cases present
  · have nothing : objects ⟨kind, id⟩ = none := by
      rw [holds.row, Option.map_eq_none_iff] at absent
      exact absent
    rw [Objects.erase_of_none nothing]
    exact .refl holds

end Transaction

end ScopedStore
