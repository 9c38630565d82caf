import Mathlib.Data.List.Find
import ScopedStore.Proofs.Graph.Plans
import ScopedStore.Proofs.Graph.Steps

/-!
# The first data is set up as a whole, once

Setting up the first data stores a tab, a workspace, a window and a client, one after the other,
and has no scope of its own for this; but the transaction around it is one, so a place that is
taken leaves none of the four behind. Whether there is a client is asked in the same transaction,
and there is one afterwards, so the first data is set up once (`first_data_set_up_once`).

All this is said of the rows alone. What other rows hold, and whether they can be read, does not
matter.
-/

set_option autoImplicit false

namespace ScopedStore

/-- The records of the first data, in the order in which they are stored. -/
def Graph.firstRecords (ids : IdSource) : List Record :=
  [⟨.tab, Tab.first ids⟩, ⟨.workspace, Workspace.first ids⟩, ⟨.window, Window.first ids⟩,
    ⟨.client, Client.first ids⟩]

/-! ## Storing several records -/

namespace Database

variable {database : Database} {record : Record} {records : List Record}

/-- The database has a row at the address of the record. -/
def taken (database : Database) (record : Record) : Bool := (database.row? record.ref).isSome

theorem not_taken : ¬database.taken record ↔ database.row? record.ref = none := by
  rw [taken, Bool.not_eq_true, Option.isSome_eq_false_iff, Option.isNone_iff_eq_none]

theorem row?_put (tabled : (database.tables.get? record.kind).isSome) (ref : Ref) :
    (database.put record).row? ref =
      if ref = record.ref then some record.row else database.row? ref := by
  obtain ⟨table, found⟩ := Option.isSome_iff_exists.1 tabled
  have held : database.tables.get? record.ref.kind = some table := found
  rw [put, found]
  exact row?_change held (fun id => SortedMap.get?_insert table record.id id record.row) ref

theorem isSome_table_put (record : Record) {kind : Kind}
    (tabled : (database.tables.get? kind).isSome) :
    ((database.put record).tables.get? kind).isSome := by
  rw [put]
  split
  · rw [table_withTable]
    split
    · rfl
    · exact tabled
  · exact tabled

/-- The database with some more records. -/
def putAll (database : Database) (records : List Record) : Database := records.foldl put database

theorem tombstones_putAll (database : Database) (records : List Record) :
    (database.putAll records).tombstones = database.tombstones := by
  induction records generalizing database with
  | nil => rfl
  | cons first rest ih => exact (ih _).trans (tombstones_put database first)

/-- Rows at other addresses stay. -/
theorem row?_putAll_of_ne (tabled : ∀ kind, (database.tables.get? kind).isSome) {ref : Ref}
    (others : ∀ record ∈ records, record.ref ≠ ref) :
    (database.putAll records).row? ref = database.row? ref := by
  induction records generalizing database with
  | nil => rfl
  | cons first rest ih =>
      rw [List.forall_mem_cons] at others
      have later := ih (fun kind => isSome_table_put first (tabled kind)) others.2
      refine later.trans ?_
      rw [row?_put (tabled _), if_neg fun same => others.1 same.symm]

/-- Every record gets its row, if no two of them have one address. -/
theorem row?_putAll_of_mem (tabled : ∀ kind, (database.tables.get? kind).isSome)
    (apart : records.Pairwise fun first second => first.ref ≠ second.ref)
    (member : record ∈ records) : (database.putAll records).row? record.ref = some record.row := by
  induction records generalizing database with
  | nil => cases member
  | cons first rest ih =>
      have tabled' := fun kind => isSome_table_put first (tabled kind)
      obtain ⟨others, apart⟩ := List.pairwise_cons.1 apart
      rcases List.mem_cons.1 member with rfl | later
      · refine (row?_putAll_of_ne tabled' fun other inRest => (others other inRest).symm).trans ?_
        rw [row?_put (tabled _), if_pos rfl]
      · exact ih tabled' apart later

end Database

theorem Graph.pairwise_firstRecords (ids : IdSource) :
    (firstRecords ids).Pairwise fun first second => first.ref ≠ second.ref := by
  have kinds : (firstRecords ids).Pairwise fun first second => first.kind ≠ second.kind := by
    simp [firstRecords]
  exact kinds.imp fun other same => other (congrArg Ref.kind same)

theorem Graph.version_firstRecords (ids : IdSource) :
    ∀ record ∈ firstRecords ids, record.version = 1 := by
  rw [firstRecords]
  simp only [List.forall_mem_cons]
  exact ⟨rfl, rfl, rfl, rfl, nofun⟩

/-! ## The work -/

namespace Graph

open Transaction

variable {handle : Handle}

/-- The number of clients that are counted tells whether there is one. -/
theorem exists_count (tabled : (handle.content.tables.get? .client).isSome) :
    ∃ number, Work.run (Transaction.ask (.count .client)).run handle = (.ok number, handle) ∧
      (0 < number ↔ ∃ id, (handle.content.row? ⟨.client, id⟩).isSome) := by
  obtain ⟨table, found⟩ := Option.isSome_iff_exists.1 tabled
  have row (id : String) : handle.content.row? ⟨.client, id⟩ = table.get? id :=
    Database.row?_of_table found
  have counted : handle.count .client = .ok table.size :=
    mapError_eq_ok.2 (bind_eq_ok.2 ⟨table, Repository.table_eq_ok.2 found, rfl⟩)
  refine ⟨table.size, Prod.ext counted rfl, fun some => ?_, fun ⟨id, present⟩ => ?_⟩
  · obtain ⟨⟨id, held⟩, member⟩ := List.exists_mem_of_length_pos some
    exact ⟨id, by rw [row, (table.get?_eq_some_iff id held).2 member]; rfl⟩
  · obtain ⟨held, found⟩ := Option.isSome_iff_exists.1 present
    exact List.length_pos_of_mem ((table.get?_eq_some_iff id held).1 ((row id).symm.trans found))

/-- Where there is a client, nothing is done. -/
theorem run_seed_of_client (present : ∃ id, (handle.content.row? ⟨.client, id⟩).isSome) :
    Work.run seed.run handle = (.ok none, handle) := by
  have tabled : (handle.content.tables.get? .client).isSome := by
    obtain ⟨id, found⟩ := present
    obtain ⟨row, found⟩ := Option.isSome_iff_exists.1 found
    obtain ⟨table, held, _⟩ := Database.table_of_row found
    exact Option.isSome_of_eq_some held
  obtain ⟨number, counted, some⟩ := exists_count tabled
  rw [seed, run_bind_of_ok counted, if_pos (some.2 present)]
  rfl

/-- Where there is no client, none is counted. -/
theorem run_count_of_none (tabled : (handle.content.tables.get? .client).isSome)
    (noClient : ∀ id, handle.content.row? ⟨.client, id⟩ = none) :
    Work.run (Transaction.ask (.count .client)).run handle = (.ok 0, handle) := by
  obtain ⟨number, counted, some⟩ := exists_count tabled
  have none : number = 0 := Nat.eq_zero_of_not_pos fun more => by
    obtain ⟨id, present⟩ := some.1 more
    rw [noClient] at present
    cases present
  rw [counted, none]

/-- The work stores new records in order and gives a value; where the place of one is taken, the
first such place is its failure. -/
structure Stores {α : Type} (work : Transaction α) (handle : Handle) (records : List Record)
    (value : α) : Prop where
  succeeds : records.find? handle.content.taken = none →
    (Work.run work.run handle).1 = .ok value ∧
      (Work.run work.run handle).2.content = handle.content.putAll records
  fails : ∀ {record}, records.find? handle.content.taken = some record →
    (Work.run work.run handle).1 = .error (.duplicateKey record.ref)

theorem Stores.of_run {α : Type} {work other : Transaction α} {records : List Record} {value : α}
    (same : Work.run work.run handle = Work.run other.run handle)
    (stores : Stores other handle records value) : Stores work handle records value where
  succeeds := same ▸ stores.succeeds
  fails := same ▸ stores.fails

theorem stores_pure {α : Type} (value : α) (handle : Handle) :
    Stores (pure value) handle [] value where
  succeeds _ := ⟨rfl, rfl⟩
  fails split := by simp at split

/-- **One more new record is stored first.** -/
theorem stores_new {α : Type} {kind : Kind} {build : String → kind.Body}
    {next : kind.Body → Transaction α} {ids : IdSource} {new : kind.Body} {records : List Record}
    {value : α} (tabled : (handle.content.tables.get? kind).isSome) (source : handle.ids = ids)
    (stored : kind.withVersion (build ids.draw.1) 1 = new)
    (apart : ∀ record ∈ records, record.kind ≠ kind)
    (rest : ∀ between : Handle, between.content = handle.content.put ⟨kind, new⟩ →
      between.ids = ids.draw.2 → Stores (next new) between records value) :
    Stores (draw >>= fun id => ask (.insert kind (build id)) >>= next) handle
      (⟨kind, new⟩ :: records) value := by
  subst source stored
  let new : Record := ⟨kind, kind.withVersion (build handle.ids.draw.1) 1⟩
  have address : new.ref = kind.ref (build handle.ids.draw.1) := kind.ref_withVersion _ 1
  let between := handle.drawn.wrote (.inserted new)
  have content : between.content = handle.content.put new := Handle.content_wrote _ _
  have later := rest between content rfl
  have others : records.find? between.content.taken = records.find? handle.content.taken :=
    List.find?_congr fun record member => congrArg Option.isSome <| by
      rw [content]
      exact Database.row?_put_of_kind _ _ (apart record member)
  by_cases taken : handle.content.taken new
  · have first : (new :: records).find? handle.content.taken = some new :=
      List.find?_cons_of_pos taken
    rw [Database.taken, address] at taken
    refine ⟨fun none => (nomatch first.symm.trans none), fun found => ?_⟩
    obtain rfl := Option.some.inj (first.symm.trans found)
    rw [run_new_of_taken taken]
    exact congrArg (fun ref => Except.error (StoreError.duplicateKey ref)) address.symm
  · have behind : (new :: records).find? handle.content.taken =
        records.find? between.content.taken := (List.find?_cons_of_neg taken).trans others.symm
    rw [Database.not_taken, address] at taken
    refine ⟨fun free => ?_, fun found => ?_⟩
    · obtain ⟨answer, left⟩ := later.succeeds (behind.symm.trans free)
      rw [run_new_of_free tabled taken]
      exact ⟨answer, left.trans (congrArg (Database.putAll · records) content)⟩
    · rw [run_new_of_free tabled taken]
      exact later.fails (behind.symm.trans found)

/-- **The first data is stored where there is no client.** -/
theorem stores_seed (tabled : ∀ kind, (handle.content.tables.get? kind).isSome)
    (noClient : ∀ id, handle.content.row? ⟨.client, id⟩ = none) :
    Stores seed handle (firstRecords handle.ids) (some (Client.first handle.ids)) := by
  have tables {content : Database} (tabled : ∀ kind, (content.tables.get? kind).isSome)
      (record : Record) (kind : Kind) : ((content.put record).tables.get? kind).isSome :=
    Database.isSome_table_put record (tabled kind)
  refine .of_run (run_bind_of_ok (run_count_of_none (tabled _) noClient)) ?_
  rw [if_neg (Nat.lt_irrefl 0), firstRecords]
  refine stores_new (tabled _) rfl rfl (by simp) fun first content ids => ?_
  have tabled := content ▸ tables tabled _
  refine stores_new (tabled _) ids rfl (by simp) fun second content ids => ?_
  have tabled := content ▸ tables tabled _
  refine stores_new (tabled _) ids rfl (by simp) fun third content ids => ?_
  have tabled := content ▸ tables tabled _
  refine stores_new (tabled _) ids rfl (by simp) fun last content ids => ?_
  exact stores_pure _ last

end Graph

/-! ## The transaction around it -/

/-- What a transaction answers whose work has given an answer, with others at the file. -/
def Contention.verdict {α : Type} (answer : Except StoreError α) :
    Contention → Except StoreError α
  | free => answer
  | reading => answer.bind fun _ => .error (.ofEngine .locked)
  | writing => .error (.ofEngine .locked)

/-- While another connection is at the file, every verdict is a failure. -/
theorem Contention.exists_verdict_eq_error {α : Type} {contention : Contention}
    (held : contention ≠ .free) (answer : Except StoreError α) :
    ∃ cause, contention.verdict answer = .error cause := by
  cases contention with
  | free => exact absurd rfl held
  | reading => cases answer <;> exact ⟨_, rfl⟩
  | writing => exact ⟨_, rfl⟩

/-- Work that fails has its own failure, unless another connection holds the right to write. -/
theorem Contention.verdict_error {α : Type} {contention : Contention}
    (begins : contention ≠ .writing) (cause : StoreError) :
    contention.verdict (.error cause : Except StoreError α) = .error cause := by
  cases contention with
  | free => rfl
  | reading => rfl
  | writing => exact absurd rfl begins

/-- The database behind a transaction with a verdict. -/
def Database.settled {α : Type} (before after : Database) : Except StoreError α → Database
  | .ok _ => after
  | .error _ => before

namespace Store

variable {α : Type}

/-- **What a transaction comes to**, told from its work. -/
theorem attempt_verdict (store : Store) (tracked : Bool) (work : Transaction α) :
    let ran := Work.run work.run (Handle.start store.database tracked store.ids store.now).openScope
    let done := store.attempt tracked work.run Transaction.ending
    done.1.answer.map Prod.fst = store.contention.verdict ran.1 ∧
      done.2.database =
        store.database.settled ran.2.content (store.contention.verdict ran.1) := by
  intro ran done
  have same : done = _ := store.attempt_eq tracked work.run Transaction.ending
  rw [same]
  dsimp only [absorb, commit]
  have run : Work.run work.run (Handle.start store.database tracked store.ids store.now).openScope =
    ran := rfl
  rw [run]
  clear_value ran
  obtain ⟨answer, last⟩ := ran
  cases store.contention with
  | writing => exact ⟨rfl, rfl⟩
  | reading => cases answer <;> exact ⟨rfl, rfl⟩
  | free => cases answer <;> exact ⟨rfl, rfl⟩

/-- The same of an untracked transaction. -/
theorem transactUntracked_verdict {store : Store} {waiting : Nat}
    (fits : engineTimeout store.config.initialTimeout = .ok waiting) (work : Transaction α) :
    let ran := Work.run work.run (Handle.start store.database false store.ids store.now).openScope
    (store.transactUntracked work).1 = (store.contention.verdict ran.1).mapError .failure ∧
      (store.transactUntracked work).2.database =
        store.database.settled ran.2.content (store.contention.verdict ran.1) := by
  intro ran
  obtain ⟨outcome, _, left⟩ := runUntracked_of_fits fits work.run Transaction.ending
  obtain ⟨answer, database⟩ :
      (attempt _ false work.run _).1.answer.map Prod.fst = store.contention.verdict ran.1 ∧ _ :=
    ({ store with busyTimeout := waiting } : Store).attempt_verdict false work
  have same := (congrArg Store.database left).trans database
  rw [transactUntracked]
  generalize store.runUntracked work.run Transaction.ending = done at outcome same ⊢
  generalize attempt _ false work.run Transaction.ending = attempted at outcome answer
  obtain ⟨result, after⟩ := done
  obtain rfl : result = _ := outcome
  dsimp only at same ⊢
  rw [← answer] at same ⊢
  generalize attempted.1.answer = answered at same ⊢
  cases answered with
  | error cause => exact ⟨rfl, same⟩
  | ok given => exact ⟨rfl, same⟩

/-- **What setting up the first data comes to**, told from the work of it. -/
theorem ensureInitialData_verdict {store : Store} {waiting : Nat}
    (fits : engineTimeout store.config.initialTimeout = .ok waiting) :
    let ran := Work.run Graph.seed.run
      (Handle.start store.database false store.ids store.now).openScope
    let verdict := store.contention.verdict ran.1
    (Service.ensureInitialData store).1 = (verdict.map Option.isSome).mapError Refusal.failure ∧
      (Service.ensureInitialData store).2.database =
        store.database.settled ran.2.content verdict := by
  intro ran verdict
  obtain ⟨answer, left⟩ : (store.transactUntracked Graph.seed).1 =
        verdict.mapError Refusal.failure ∧
      (store.transactUntracked Graph.seed).2.database =
        store.database.settled ran.2.content verdict :=
    transactUntracked_verdict fits Graph.seed
  rw [Service.ensureInitialData]
  generalize store.transactUntracked Graph.seed = done at answer left ⊢
  clear_value verdict
  obtain ⟨result, after⟩ := done
  obtain rfl : result = _ := answer
  rcases verdict with cause | (_ | client)
  · exact ⟨rfl, left⟩
  · exact ⟨rfl, left⟩
  · exact ⟨rfl, left⟩

/-- The settings, the others at the file and the bus stay. -/
theorem ensureInitialData_store (store : Store) :
    ∃ database busyTimeout ids log, (Service.ensureInitialData store).2 =
      { store with database, busyTimeout, ids, log } := by
  obtain ⟨database, busyTimeout, ids, log, left⟩ : ∃ database busyTimeout ids log,
      (store.runUntracked Graph.seed.run Transaction.ending).2 =
        { store with database, busyTimeout, ids, log } := by
    cases fits : engineTimeout store.config.initialTimeout with
    | error refusal =>
        rw [runUntracked_of_long fits]
        exact ⟨store.database, store.busyTimeout, store.ids, store.log, rfl⟩
    | ok waiting =>
        obtain ⟨_, usual, left⟩ := runUntracked_of_fits fits Graph.seed.run Transaction.ending
        obtain ⟨database, ids, log, attempted⟩ := ({ store with busyTimeout := waiting } :
          Store).attempt_store false Graph.seed.run Transaction.ending
        exact ⟨database, usual, ids, log, by rw [left, attempted]⟩
  rw [Service.ensureInitialData, transactUntracked]
  generalize store.runUntracked Graph.seed.run Transaction.ending = ran at left ⊢
  obtain ⟨refusal | outcome, after⟩ := ran
  · exact ⟨database, busyTimeout, ids, log, left⟩
  · obtain rfl : after = _ := left
    dsimp only
    rcases outcome.answer with cause | ⟨_ | client, changes⟩
    · exact ⟨database, busyTimeout, ids, log, rfl⟩
    · exact ⟨database, busyTimeout, ids, _, rfl⟩
    · exact ⟨database, busyTimeout, ids, _, rfl⟩

/-- The work of it stores the first data where there is no client. -/
theorem stores_firstRecords {store : Store}
    (tabled : ∀ kind, (store.database.tables.get? kind).isSome)
    (noClient : ∀ id, store.database.row? ⟨.client, id⟩ = none) :
    Graph.Stores Graph.seed (Handle.start store.database false store.ids store.now).openScope
      (Graph.firstRecords store.ids) (some (Client.first store.ids)) :=
  Graph.stores_seed tabled noClient

section

variable {store : Store} {waiting : Nat}
  (fits : engineTimeout store.config.initialTimeout = .ok waiting)
include fits

/-- While another connection is at the file, nothing is changed. -/
theorem database_ensureInitialData_of_held (held : store.contention ≠ .free) :
    (Service.ensureInitialData store).2.database = store.database := by
  obtain ⟨_, database⟩ := ensureInitialData_verdict fits
  obtain ⟨cause, failed⟩ := Contention.exists_verdict_eq_error held (Work.run Graph.seed.run
    (Handle.start store.database false store.ids store.now).openScope).1
  rw [failed] at database
  exact database

/-- While it holds the right to write, the file is locked. -/
theorem ensureInitialData_of_writing (writing : store.contention = .writing) :
    (Service.ensureInitialData store).1 = .error (.failure (.ofEngine .locked)) := by
  obtain ⟨answer, _⟩ := ensureInitialData_verdict fits
  rw [writing] at answer
  exact answer

/-- While it reads the file, work that succeeds cannot be kept. -/
theorem ensureInitialData_of_reading (reading : store.contention = .reading)
    {given : Option Client} (succeeds : (Work.run Graph.seed.run
      (Handle.start store.database false store.ids store.now).openScope).1 = .ok given) :
    (Service.ensureInitialData store).1 = .error (.failure (.ofEngine .locked)) := by
  obtain ⟨answer, _⟩ := ensureInitialData_verdict fits
  rw [reading, succeeds] at answer
  exact answer

/-- Where there is a client, nothing is done. -/
theorem ensureInitialData_of_client (free : store.contention = .free)
    (present : ∃ id, (store.database.row? ⟨.client, id⟩).isSome) :
    (Service.ensureInitialData store).1 = .ok false ∧
      (Service.ensureInitialData store).2.database = store.database := by
  let start := (Handle.start store.database false store.ids store.now).openScope
  have nothing : Work.run Graph.seed.run start = (.ok none, start) :=
    Graph.run_seed_of_client present
  obtain ⟨answer, database⟩ := ensureInitialData_verdict fits
  rw [free, nothing] at answer database
  exact ⟨answer, database⟩

variable (tabled : ∀ kind, (store.database.tables.get? kind).isSome)
  (noClient : ∀ id, store.database.row? ⟨.client, id⟩ = none)
include tabled noClient

/-- Where there is none and a place is taken, nothing is done. -/
theorem ensureInitialData_of_taken (begins : store.contention ≠ .writing) {record : Record}
    (first : (Graph.firstRecords store.ids).find? store.database.taken = some record) :
    (Service.ensureInitialData store).1 = .error (.failure (.duplicateKey record.ref)) ∧
      (Service.ensureInitialData store).2.database = store.database := by
  have failed := (stores_firstRecords tabled noClient).fails first
  obtain ⟨answer, database⟩ := ensureInitialData_verdict fits
  rw [failed, Contention.verdict_error begins] at answer database
  exact ⟨answer, database⟩

variable (places : (Graph.firstRecords store.ids).find? store.database.taken = none)
include places

/-- Where every place is free, but another connection reads the file, the records cannot be kept. -/
theorem ensureInitialData_of_free_reading (reading : store.contention = .reading) :
    (Service.ensureInitialData store).1 = .error (.failure (.ofEngine .locked)) := by
  exact ensureInitialData_of_reading fits reading
    ((stores_firstRecords tabled noClient).succeeds places).1

variable (free : store.contention = .free)
include free

/-- Where there is none and every place is free, the records are stored. -/
theorem ensureInitialData_of_free :
    (Service.ensureInitialData store).1 = .ok true ∧
      (Service.ensureInitialData store).2.database =
        store.database.putAll (Graph.firstRecords store.ids) := by
  obtain ⟨given, content⟩ := (stores_firstRecords tabled noClient).succeeds places
  obtain ⟨answer, database⟩ := ensureInitialData_verdict fits
  rw [free, given] at answer database
  exact ⟨answer, database.trans content⟩

/-- Every record that was stored has its row then. -/
theorem row?_ensureInitialData {record : Record} (member : record ∈ Graph.firstRecords store.ids) :
    (Service.ensureInitialData store).2.database.row? record.ref = some record.row := by
  rw [(ensureInitialData_of_free fits tabled noClient places free).2]
  exact Database.row?_putAll_of_mem tabled (Graph.pairwise_firstRecords _) member

/-- All other rows stay. -/
theorem row?_ensureInitialData_of_ne {ref : Ref}
    (others : ∀ record ∈ Graph.firstRecords store.ids, record.ref ≠ ref) :
    (Service.ensureInitialData store).2.database.row? ref = store.database.row? ref := by
  rw [(ensureInitialData_of_free fits tabled noClient places free).2]
  exact Database.row?_putAll_of_ne tabled others

/-- **What was set up once is not set up again.** -/
theorem ensureInitialData_again :
    (Service.ensureInitialData (Service.ensureInitialData store).2).1 = .ok false ∧
      (Service.ensureInitialData (Service.ensureInitialData store).2).2.database =
        (Service.ensureInitialData store).2.database := by
  obtain ⟨database, busyTimeout, ids, log, left⟩ := store.ensureInitialData_store
  have config : (Service.ensureInitialData store).2.config = store.config := congrArg (·.config) left
  have still : (Service.ensureInitialData store).2.contention = .free :=
    (congrArg (·.contention) left).trans free
  have member : (⟨.client, Client.first store.ids⟩ : Record) ∈ Graph.firstRecords store.ids := by
    simp [Graph.firstRecords]
  have client := row?_ensureInitialData fits tabled noClient places free member
  exact ensureInitialData_of_client (config ▸ fits) still ⟨_, Option.isSome_of_eq_some client⟩

end

/-- The records of the first data are there afterwards, or nothing is changed. -/
theorem database_ensureInitialData {store : Store} {waiting : Nat}
    (fits : engineTimeout store.config.initialTimeout = .ok waiting)
    (tabled : ∀ kind, (store.database.tables.get? kind).isSome) :
    (Service.ensureInitialData store).2.database = store.database ∨
      (Service.ensureInitialData store).2.database =
        store.database.putAll (Graph.firstRecords store.ids) := by
  by_cases free : store.contention = .free
  · by_cases present : ∃ id, (store.database.row? ⟨.client, id⟩).isSome
    · exact .inl (ensureInitialData_of_client fits free present).2
    · have noClient (id : String) : store.database.row? ⟨.client, id⟩ = none :=
        Option.not_isSome_iff_eq_none.1 fun some => present ⟨id, some⟩
      cases first : (Graph.firstRecords store.ids).find? store.database.taken with
      | none => exact .inr (ensureInitialData_of_free fits tabled noClient first free).2
      | some record =>
          have begins : store.contention ≠ .writing := by simp [free]
          exact .inl (ensureInitialData_of_taken fits tabled noClient begins first).2
  · exact .inl (database_ensureInitialData_of_held fits free)

/-- Nothing is recorded meanwhile. -/
theorem allPending_seed (store : Store) :
    (Work.run Graph.seed.run
      (Handle.start store.database false store.ids store.now).openScope).2.allPending = ∅ := by
  have started : (Handle.start store.database false store.ids store.now).openScope.Lockstep :=
    (Handle.Does.opened _).lockstep (Handle.lockstep_start store.database false store.ids store.now)
  rw [Work.run_eq_play, Handle.allPending_eq, Handle.frames_eq_nil.2 (started.tracked_play _)]
  rfl

end Store

/-- **The first data is set up as a whole, once.** Take a store with its tables, whatever their rows
hold, whose waiting time for the first data the engine has room for.

Nothing is recorded, buried or delivered, whatever becomes of it. While another connection is at
the file, nothing is changed. If it holds the right to write, the file is locked. If it reads the
file, so that nothing can be kept, the file is locked too, unless there is no client and a place is
taken: then the first such place is the failure.

If nobody else is there, exactly one of three things is done. Where there is a client, that is the
answer, and nothing is changed. Where there is none and the places of the four records are free,
they are stored, all with version 1, and nothing else is changed; the client names the window, and
the window the tab and the workspace that lists this tab alone. Doing it again then finds the
client. Where a place is taken, the first such place is the failure, and nothing is changed. -/
theorem first_data_set_up_once (store : Store) (waiting : Nat)
    (fits : Store.engineTimeout store.config.initialTimeout = .ok waiting)
    (tabled : ∀ kind, (store.database.tables.get? kind).isSome) :
    let start := (Handle.start store.database false store.ids store.now).openScope
    let records := Graph.firstRecords store.ids
    let ran := Service.ensureInitialData store
    (ran.2.bus = store.bus ∧ ran.2.database.tombstones = store.database.tombstones ∧
      (Work.run Graph.seed.run start).2.allPending = ∅) ∧
    (store.contention ≠ .free → ran.2.database = store.database) ∧
    (store.contention = .writing → ran.1 = .error (.failure (.ofEngine .locked))) ∧
    (store.contention = .reading →
      ((∃ id, (store.database.row? ⟨.client, id⟩).isSome) →
        ran.1 = .error (.failure (.ofEngine .locked))) ∧
      ((∀ id, store.database.row? ⟨.client, id⟩ = none) →
        (records.find? store.database.taken = none →
          ran.1 = .error (.failure (.ofEngine .locked))) ∧
        ∀ record, records.find? store.database.taken = some record →
          ran.1 = .error (.failure (.duplicateKey record.ref)))) ∧
    (store.contention = .free →
      ((∃ id, (store.database.row? ⟨.client, id⟩).isSome) →
        ran.1 = .ok false ∧ ran.2.database = store.database) ∧
      ((∀ id, store.database.row? ⟨.client, id⟩ = none) →
        (records.find? store.database.taken = none →
          (ran.1 = .ok true ∧
            (∀ record ∈ records, record.version = 1 ∧
              ran.2.database.row? record.ref = some record.row) ∧
            ∀ ref, (∀ record ∈ records, record.ref ≠ ref) →
              ran.2.database.row? ref = store.database.row? ref) ∧
          ((Client.first store.ids).mainWindowId = (Window.first store.ids).id ∧
            (Window.first store.ids).workspaceId = (Workspace.first store.ids).id ∧
            (Window.first store.ids).activeTabId = (Tab.first store.ids).id ∧
            (Workspace.first store.ids).tabIds = [(Tab.first store.ids).id]) ∧
          (Service.ensureInitialData ran.2).1 = .ok false ∧
            (Service.ensureInitialData ran.2).2.database = ran.2.database) ∧
        ∀ record, records.find? store.database.taken = some record →
          ran.1 = .error (.failure (.duplicateKey record.ref)) ∧
            ran.2.database = store.database)) := by
  intro start records ran
  refine ⟨⟨?bus, ?buried, store.allPending_seed⟩, Store.database_ensureInitialData_of_held fits,
    Store.ensureInitialData_of_writing fits, fun reading => ?read, fun free =>
    ⟨Store.ensureInitialData_of_client fits free, fun noClient => ⟨fun places => ?stored,
      fun record => ?taken⟩⟩⟩
  case bus =>
    obtain ⟨database, busyTimeout, ids, log, left⟩ := store.ensureInitialData_store
    exact congrArg (·.bus) left
  case buried =>
    rcases Store.database_ensureInitialData fits tabled with same | stored
    · exact congrArg Database.tombstones same
    · exact (congrArg Database.tombstones stored).trans (Database.tombstones_putAll _ _)
  case read =>
    have begins : store.contention ≠ .writing := by simp [reading]
    refine ⟨fun present => ?_, fun noClient => ⟨fun places => ?_, fun record first => ?_⟩⟩
    · have nothing : Work.run Graph.seed.run start = (.ok none, start) :=
        Graph.run_seed_of_client present
      exact Store.ensureInitialData_of_reading fits reading (congrArg Prod.fst nothing)
    · exact Store.ensureInitialData_of_free_reading fits tabled noClient places reading
    · exact (Store.ensureInitialData_of_taken fits tabled noClient begins first).1
  case taken =>
    have begins : store.contention ≠ .writing := by simp [free]
    exact Store.ensureInitialData_of_taken fits tabled noClient begins
  case stored =>
    have rows (record : Record) (member : record ∈ records) :
        record.version = 1 ∧ ran.2.database.row? record.ref = some record.row :=
      ⟨Graph.version_firstRecords _ record member,
        Store.row?_ensureInitialData fits tabled noClient places free member⟩
    refine ⟨⟨?_, rows, fun ref => ?_⟩, ⟨rfl, rfl, rfl, rfl⟩, ?_⟩
    · exact (Store.ensureInitialData_of_free fits tabled noClient places free).1
    · exact Store.row?_ensureInitialData_of_ne fits tabled noClient places free
    · exact Store.ensureInitialData_again fits tabled noClient places free

/-- The first data of an empty store is set up, and then it is there. -/
theorem vacant_store_set_up_once :
    Store.engineTimeout Store.vacant.config.initialTimeout = .ok 2000 ∧
      (Service.ensureInitialData .vacant).1 = .ok true ∧
      (Service.ensureInitialData (Service.ensureInitialData .vacant).2).1 = .ok false := by
  obtain ⟨_, _, _, _, undisturbed⟩ :=
    first_data_set_up_once .vacant 2000 rfl Database.exists_table_vacant
  have noClient (id : String) : Store.vacant.database.row? ⟨.client, id⟩ = none :=
    Database.row?_vacant _
  have places : (Graph.firstRecords Store.vacant.ids).find? Store.vacant.database.taken = none :=
    List.find?_eq_none.2 fun record _ => Database.not_taken.2 (Database.row?_vacant record.ref)
  obtain ⟨⟨answer, _⟩, _, again, _⟩ := ((undisturbed rfl).2 noClient).1 places
  exact ⟨rfl, answer, again⟩

/-- A store was opened in a new file, and another connection has begun to write to that. There is no
client and no place is taken, but the setting up finds the file locked. -/
theorem first_data_behind_lock :
    ∃ store, (Store.openIn .empty .none (.inFile "/s.db") default 0).result = .ok store ∧
      (∀ ref, store.database.row? ref = none) ∧
      (Service.ensureInitialData { store with contention := .writing }).1 =
        .error (.failure (.ofEngine .locked)) :=
  ⟨_, rfl, Database.row?_vacant, rfl⟩

end ScopedStore
