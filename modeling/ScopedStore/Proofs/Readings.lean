import ScopedStore.Proofs.Bodies

/-!
# What is read of rows

An object is read from its row alone (`Handle.readRow`): the body is parsed, the object is read
from it, and it gets the version of the row. Reading one object reads one row, and reading all
objects of a kind succeeds exactly if reading each of them does (`Handle.exists_list_iff`).

A row in which an object was stored is read as that object, as long as every double in its free
data is read back and nothing in it is nested too deeply; then its body is refused
(`Handle.readRow_row`).
Of an object without free data a row gives that object or nothing (`Handle.eq_of_readRow`).
-/

set_option autoImplicit false

namespace ScopedStore

theorem Kind.withVersion_version (kind : Kind) (body : kind.Body) :
    kind.withVersion body (kind.version body) = body := by
  cases kind <;> rfl

/-! ## Reading many -/

section Lists

variable {ε α β γ : Type} {read : α → Except ε β} {next : β → Except ε γ}

/-- Reading every item and then reading on from everything that was read succeeds as reading every
item to the end does. -/
theorem mapM_mapM_eq_ok {items : List α} {results : List γ} :
    (items.mapM read >>= fun held => held.mapM next) = .ok results ↔
      items.mapM (fun item => read item >>= next) = .ok results := by
  induction items generalizing results with
  | nil => rfl
  | cons item items ih =>
      simp only [List.mapM_cons, bind_eq_ok, pure, Except.pure, Except.ok.injEq] at ih ⊢
      constructor
      · rintro ⟨_, ⟨held, readItem, others, readOthers, rfl⟩, rest⟩
        simp only [List.mapM_cons, bind_eq_ok, pure, Except.pure, Except.ok.injEq] at rest
        obtain ⟨result, nextItem, further, nextOthers, rfl⟩ := rest
        exact ⟨result, ⟨held, readItem, nextItem⟩, further, ih.1 ⟨others, readOthers, nextOthers⟩,
          rfl⟩
      · rintro ⟨result, ⟨held, readItem, nextItem⟩, further, rest, rfl⟩
        obtain ⟨others, readOthers, nextOthers⟩ := ih.2 rest
        refine ⟨held :: others, ⟨held, readItem, others, readOthers, rfl⟩, ?_⟩
        simp only [List.mapM_cons, bind_eq_ok, pure, Except.pure, Except.ok.injEq]
        exact ⟨result, nextItem, further, nextOthers, rfl⟩

/-- Two ways of reading that agree on what they read of an item agree on what they read of many. -/
theorem mapM_eq_ok_of_iff {δ : Type} {again : α → Except δ β}
    (alike : ∀ item result, read item = .ok result ↔ again item = .ok result) {items : List α}
    (results : List β) : items.mapM read = .ok results ↔ items.mapM again = .ok results := by
  induction items generalizing results with
  | nil => simp [pure, Except.pure]
  | cons item items ih =>
      simp only [List.mapM_cons, bind_eq_ok, pure, Except.pure, Except.ok.injEq, alike, ih]

/-- All items are read exactly if each of them is. -/
theorem exists_mapM_eq_ok {items : List α} :
    (∃ results, items.mapM read = .ok results) ↔
      ∀ item ∈ items, ∃ result, read item = .ok result := by
  induction items with
  | nil => exact ⟨fun _ => nofun, fun _ => ⟨[], rfl⟩⟩
  | cons item items ih =>
      simp only [List.mapM_cons, bind_eq_ok, pure, Except.pure, Except.ok.injEq,
        List.forall_mem_cons, ← ih]
      constructor
      · rintro ⟨_, result, here, results, there, rfl⟩
        exact ⟨⟨result, here⟩, results, there⟩
      · rintro ⟨⟨result, here⟩, results, there⟩
        exact ⟨_, result, here, results, there, rfl⟩

/-- What is read was read of some item, and what is read of every item is there. -/
theorem mem_of_mapM_eq_ok {items : List α} {results : List β}
    (done : items.mapM read = .ok results) (result : β) :
    result ∈ results ↔ ∃ item ∈ items, read item = .ok result := by
  induction items generalizing results with
  | nil =>
      cases done
      simp
  | cons item items ih =>
      simp only [List.mapM_cons, bind_eq_ok, pure, Except.pure, Except.ok.injEq] at done
      obtain ⟨first, here, others, there, rfl⟩ := done
      have first_or : result = first ↔ read item = .ok result := by
        rw [here, Except.ok.injEq, eq_comm]
      rw [List.mem_cons, ih there, first_or]
      simp [or_and_right, exists_or]

/-- Many items fail to be read for a cause for which one of them does. -/
theorem exists_of_mapM_eq_error {items : List α} {cause : ε}
    (failed : items.mapM read = .error cause) : ∃ item ∈ items, read item = .error cause := by
  induction items with
  | nil => cases failed
  | cons item items ih =>
      simp only [List.mapM_cons, bind_eq_error, pure, Except.pure] at failed
      obtain here | ⟨result, _, there | ⟨_, _, nothing⟩⟩ := failed
      · exact ⟨item, List.mem_cons_self, here⟩
      · obtain ⟨other, member, wrong⟩ := ih there
        exact ⟨other, List.mem_cons_of_mem _ member, wrong⟩
      · cases nothing

end Lists

namespace Handle

variable {handle : Handle} {kind : Kind} {id : String} {row : Row} {body : kind.Body}

/-- What is read of a row at an address. -/
def readRow (kind : Kind) (id : String) (row : Row) : Except StoreError kind.Body :=
  lift (Repository.toRecord ⟨kind, id⟩ row) >>= decode kind

theorem get_of_table {table : Table} (found : handle.content.tables.get? kind = some table) :
    handle.get kind id =
      (table.get? id).elim (.ok none) fun row => (readRow kind id row).map some := by
  have tabled : Repository.table handle.content kind = .ok table := Repository.table_eq_ok.2 found
  rw [get, Repository.get, tabled]
  simp only [bind, Except.bind]
  cases table.get? id with
  | none => rfl
  | some row =>
      simp only [Option.elim, readRow]
      cases Repository.toRecord ⟨kind, id⟩ row <;> rfl

theorem get_of_row (found : handle.content.row? ⟨kind, id⟩ = some row) :
    handle.get kind id = (readRow kind id row).map some := by
  obtain ⟨table, held, inTable⟩ := Database.table_of_row found
  rw [get_of_table held, show table.get? id = some row from inTable]
  rfl

theorem table_of_get {found : Option kind.Body} (given : handle.get kind id = .ok found) :
    ∃ table, handle.content.tables.get? kind = some table := by
  obtain ⟨stored, asked, _⟩ := bind_eq_ok.1 given
  obtain ⟨table, held, _⟩ := bind_eq_ok.1 (mapError_eq_ok.1 asked)
  exact ⟨table, Repository.table_eq_ok.1 held⟩

/-- What is read was read of a row. -/
theorem get_eq_some (given : handle.get kind id = .ok (some body)) :
    ∃ row, handle.content.row? ⟨kind, id⟩ = some row ∧ readRow kind id row = .ok body := by
  obtain ⟨table, held⟩ := table_of_get given
  rw [get_of_table held] at given
  cases inTable : table.get? id with
  | none => rw [inTable] at given; cases given
  | some row =>
      refine ⟨row, (Database.row?_of_table held).trans inTable, ?_⟩
      rw [inTable] at given
      cases read : readRow kind id row with
      | error cause => simp [read, Except.map] at given
      | ok held => simpa [read, Except.map] using given

/-- **All objects of a kind are read exactly if every row of the kind is read.** -/
theorem list_eq_ok {bodies : List kind.Body} :
    handle.list kind = .ok bodies ↔
      ∃ table, handle.content.tables.get? kind = some table ∧
        table.entries.mapM (fun entry => readRow kind entry.1 entry.2) = .ok bodies := by
  have rows (table : Table) : ((table.entries.mapM fun entry =>
        lift (Repository.toRecord ⟨kind, entry.1⟩ entry.2)) >>= fun held =>
          held.mapM (decode kind)) = .ok bodies ↔
      table.entries.mapM (fun entry => readRow kind entry.1 entry.2) = .ok bodies :=
    mapM_mapM_eq_ok
  have lifted (table : Table) (stored : List StoredRecord) :
      (table.entries.mapM fun entry => Repository.toRecord ⟨kind, entry.1⟩ entry.2) = .ok stored ↔
        (table.entries.mapM fun entry =>
          lift (Repository.toRecord ⟨kind, entry.1⟩ entry.2)) = .ok stored :=
    (mapM_eq_ok_of_iff fun _ _ => mapError_eq_ok.symm) stored
  constructor
  · intro given
    obtain ⟨stored, found, rest⟩ := bind_eq_ok.1 given
    obtain ⟨table, held, read⟩ := bind_eq_ok.1 (mapError_eq_ok.1 found)
    refine ⟨table, Repository.table_eq_ok.1 held, (rows table).1 ?_⟩
    exact bind_eq_ok.2 ⟨stored, (lifted table stored).1 read, rest⟩
  · rintro ⟨table, held, read⟩
    obtain ⟨stored, found, rest⟩ := bind_eq_ok.1 ((rows table).2 read)
    refine bind_eq_ok.2 ⟨stored, mapError_eq_ok.2 (bind_eq_ok.2 ⟨table, ?_, ?_⟩), rest⟩
    · exact Repository.table_eq_ok.2 held
    · exact (lifted table stored).2 found

/-- **All objects of a kind are given exactly if each of them is.** -/
theorem exists_list_iff : (∃ bodies, handle.list kind = .ok bodies) ↔
    ∀ id, ∃ found, handle.get kind id = .ok found := by
  constructor
  · rintro ⟨bodies, listed⟩ id
    obtain ⟨table, held, read⟩ := list_eq_ok.1 listed
    rw [get_of_table held]
    cases inTable : table.get? id with
    | none => exact ⟨none, rfl⟩
    | some row =>
        have member := (table.get?_eq_some_iff id row).1 inTable
        obtain ⟨body, whole⟩ := exists_mapM_eq_ok.1 ⟨bodies, read⟩ (id, row) member
        exact ⟨some body, by simp [whole, Except.map]⟩
  · intro all
    obtain ⟨_, given⟩ := all ""
    obtain ⟨table, held⟩ := table_of_get given
    have each : ∀ entry ∈ table.entries, ∃ body, readRow kind entry.1 entry.2 = .ok body := by
      rintro ⟨id, row⟩ member
      obtain ⟨found, given⟩ := all id
      rw [get_of_table held, (table.get?_eq_some_iff id row).2 member] at given
      cases read : readRow kind id row with
      | error cause => simp [read, Except.map] at given
      | ok body => exact ⟨body, rfl⟩
    obtain ⟨bodies, read⟩ := exists_mapM_eq_ok.2 each
    exact ⟨bodies, list_eq_ok.2 ⟨table, held, read⟩⟩

theorem mem_list_iff {bodies : List kind.Body} (listed : handle.list kind = .ok bodies)
    (body : kind.Body) : body ∈ bodies ↔ ∃ id, handle.get kind id = .ok (some body) := by
  obtain ⟨table, held, read⟩ := list_eq_ok.1 listed
  rw [mem_of_mapM_eq_ok read]
  constructor
  · rintro ⟨⟨id, row⟩, member, whole⟩
    refine ⟨id, ?_⟩
    rw [get_of_table held, (table.get?_eq_some_iff id row).2 member]
    simp [whole, Except.map]
  · rintro ⟨id, given⟩
    obtain ⟨row, stored, whole⟩ := get_eq_some given
    rw [Database.row?_of_table held] at stored
    exact ⟨(id, row), (table.get?_eq_some_iff id row).1 stored, whole⟩

/-! ## Rows that hold objects -/

/-- **A row that holds an object is read as that object**, unless the object is nested too
deeply. -/
theorem readRow_row (fits : kind.VersionFits body) (exact : kind.FreeData Json.Exact body)
    (id : String) :
    readRow kind id (Record.row ⟨kind, body⟩) =
      if (kind.bodyFormat.write body).depth ≤ Json.maxLevels then .ok body
      else .error (.repository (.invalidData (.unreadableBody ⟨kind, id⟩))) := by
  have parsed := kind.parse?_write fits exact
  have read := Kind.bodyFormat_returns fits
  have text : (Record.row ⟨kind, body⟩).body = (kind.bodyFormat.write body).render := rfl
  rw [Json.Format.Returns] at read
  by_cases shallow : (kind.bodyFormat.write body).depth ≤ Json.maxLevels
  · rw [if_pos shallow] at parsed ⊢
    simp only [readRow, Repository.toRecord, text, parsed, lift, mapError_ok, bind, Except.bind,
      decode, read]
    exact congrArg Except.ok (kind.withVersion_version body)
  · rw [if_neg shallow] at parsed ⊢
    simp only [readRow, Repository.toRecord, text, parsed, lift, mapError_error, bind, Except.bind]
    rfl

/-- **Of an object that is no block a row gives that object or nothing.** -/
theorem eq_of_readRow {again : kind.Body} (noBlock : kind ≠ .block)
    (given : readRow kind id (Record.row ⟨kind, body⟩) = .ok again) : again = body := by
  obtain ⟨stored, readable, decoded⟩ := bind_eq_ok.1 given
  rw [lift, mapError_eq_ok, Repository.toRecord] at readable
  split at readable
  · rename_i data parsed
    cases readable
    rw [decode] at decoded
    split at decoded
    · rename_i held read
      cases decoded
      rw [Kind.eq_of_stored noBlock parsed read]
      exact kind.withVersion_version body
    · cases decoded
  · cases readable

end Handle

end ScopedStore
