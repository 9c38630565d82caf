import Mathlib.Data.List.Forall2
import ScopedStore.Proofs.Readings
import ScopedStore.Proofs.Transactions

/-!
# Listing all objects of a kind

Listing the objects of a kind and reading them one by one go two ways: the list takes the texts of
all rows for JSON before it reads the first object, and a single read does both for its own row.
They come to the same all the same, whatever the rows hold (`lists_agree_with_single_reads`): the
list is there exactly if each of its objects is, and then it is the list of them in the order of
their ids. A list that is refused is refused for a cause for which one of its objects is.
-/

set_option autoImplicit false

namespace ScopedStore

/-- What is read of many items is what is read of each of them, in their order. -/
theorem mapM_eq_ok_iff_forall₂ {ε α β : Type} {read : α → Except ε β} {items : List α}
    {results : List β} :
    items.mapM read = .ok results ↔
      List.Forall₂ (fun item result => read item = .ok result) items results := by
  induction items generalizing results with
  | nil =>
      rw [List.forall₂_nil_left_iff]
      exact ⟨fun done => by cases done; rfl, fun nothing => by rw [nothing]; rfl⟩
  | cons item items ih =>
      simp only [List.mapM_cons, bind_eq_ok, pure, Except.pure, Except.ok.injEq,
        List.forall₂_cons_left_iff, ih]
      constructor
      · rintro ⟨result, here, others, there, rfl⟩
        exact ⟨result, others, here, there, rfl⟩
      · rintro ⟨result, others, here, there, rfl⟩
        exact ⟨result, here, others, there, rfl⟩

namespace Handle

variable {handle : Handle} {kind : Kind} {table : Table}

/-! ## Lists and single reads -/

theorem get_of_mem {id : String} {row : Row} (held : handle.content.tables.get? kind = some table)
    (member : (id, row) ∈ table.entries) :
    handle.get kind id = (readRow kind id row).map some :=
  get_of_row ((Database.row?_of_table held).trans ((table.get?_eq_some_iff id row).2 member))

/-- **A list is made of what is read under each id.** -/
theorem list_eq_ok_iff_forall₂ (held : handle.content.tables.get? kind = some table)
    {bodies : List kind.Body} : handle.list kind = .ok bodies ↔
      List.Forall₂ (fun id body => handle.get kind id = .ok (some body)) table.keys bodies := by
  have rows : handle.list kind = .ok bodies ↔
      List.Forall₂ (fun entry body => readRow kind entry.1 entry.2 = .ok body)
        table.entries bodies := by
    rw [list_eq_ok, ← mapM_eq_ok_iff_forall₂]
    refine ⟨fun ⟨other, found, read⟩ => ?_, fun read => ⟨table, held, read⟩⟩
    cases held.symm.trans found
    exact read
  have single (entry : String × Row) (body : kind.Body) (member : entry ∈ table.entries) :
      readRow kind entry.1 entry.2 = .ok body ↔
        handle.get kind entry.1 = .ok (some body) := by
    rw [get_of_mem held member]
    cases readRow kind entry.1 entry.2 <;> simp [Except.map]
  rw [rows, SortedMap.keys, List.forall₂_map_left_iff, List.forall₂_iff_zip,
    List.forall₂_iff_zip]
  refine and_congr_right fun _ => forall₂_congr fun entry body => imp_congr_right fun inZip => ?_
  exact single entry body (List.of_mem_zip inZip).1

/-- **A list is refused for a cause for which one of its objects is.** -/
theorem exists_of_list_eq_error (held : handle.content.tables.get? kind = some table)
    {cause : StoreError} (failed : handle.list kind = .error cause) :
    ∃ id ∈ table.keys, handle.get kind id = .error cause := by
  have listed : Repository.list handle.content kind =
      table.entries.mapM fun entry => Repository.toRecord ⟨kind, entry.1⟩ entry.2 := by
    rw [Repository.list, Repository.table_eq_ok.2 held]
    rfl
  have refused {id : String} {row : Row} (member : (id, row) ∈ table.entries)
      (wrong : readRow kind id row = .error cause) :
      ∃ id ∈ table.keys, handle.get kind id = .error cause :=
    ⟨id, List.mem_map_of_mem member, by rw [get_of_mem held member, map_eq_error.2 wrong]⟩
  rw [list, listed] at failed
  rcases bind_eq_error.1 failed with unreadable | ⟨stored, readable, wrong⟩
  · obtain ⟨behind, unreadable, translated⟩ := mapError_eq_error.1 unreadable
    obtain ⟨⟨id, row⟩, member, wrong⟩ := exists_of_mapM_eq_error unreadable
    exact refused member (bind_eq_error.2 (.inl (mapError_eq_error.2 ⟨behind, wrong, translated⟩)))
  · obtain ⟨record, inStored, wrong⟩ := exists_of_mapM_eq_error wrong
    obtain ⟨⟨id, row⟩, member, read⟩ :=
      (mem_of_mapM_eq_ok (mapError_eq_ok.1 readable) record).1 inStored
    exact refused member (bind_eq_error.2 (.inr ⟨record, mapError_eq_ok.2 read, wrong⟩))

/-- The list of a kind is what single reads under the ids of its rows come to: one object for each
row, in the order of the ids, of which none stands there twice. -/
structure ListsRows (handle : Handle) (kind : Kind) (table : Table) : Prop where
  ordered : table.keys.Pairwise fun earlier later => compare earlier later = .lt
  listed : (∃ bodies, handle.list kind = .ok bodies) ↔
    ∀ id ∈ table.keys, ∃ found, handle.get kind id = .ok found
  each : ∀ bodies, handle.list kind = .ok bodies ↔
    List.Forall₂ (fun id body => handle.get kind id = .ok (some body)) table.keys bodies
  counted : ∀ bodies, handle.list kind = .ok bodies → handle.count kind = .ok bodies.length
  refused : ∀ id ∈ table.keys, ∀ cause, handle.get kind id = .error cause →
    ∃ other ∈ table.keys, ∃ reported, handle.get kind other = .error reported ∧
      handle.list kind = .error reported

theorem listsRows (held : handle.content.tables.get? kind = some table) :
    handle.ListsRows kind table where
  ordered := List.pairwise_map.2 table.increasing
  listed := by
    constructor
    · rintro ⟨bodies, listed⟩ id member
      exact exists_list_iff.1 ⟨bodies, listed⟩ id
    · intro all
      cases listed : handle.list kind with
      | ok bodies => exact ⟨bodies, rfl⟩
      | error cause =>
          obtain ⟨id, member, wrong⟩ := exists_of_list_eq_error held listed
          obtain ⟨found, given⟩ := all id member
          exact nomatch wrong.symm.trans given
  each _ := list_eq_ok_iff_forall₂ held
  counted bodies listed := by
    have sameLength := ((list_eq_ok_iff_forall₂ held).1 listed).length_eq
    rw [SortedMap.keys, List.length_map] at sameLength
    rw [count, Repository.count, Repository.table_eq_ok.2 held, ← sameLength]
    rfl
  refused id member cause wrong := by
    cases listed : handle.list kind with
    | ok bodies =>
        obtain ⟨found, given⟩ := exists_list_iff.1 ⟨bodies, listed⟩ id
        exact nomatch wrong.symm.trans given
    | error reported =>
        obtain ⟨other, inTable, failed⟩ := exists_of_list_eq_error held listed
        exact ⟨other, inTable, reported, failed, rfl⟩

/-- Without their table objects are neither listed nor counted nor read, all for the same cause. -/
theorem exists_cause_of_no_table (missing : handle.content.tables.get? kind = none) :
    ∃ cause, handle.list kind = .error cause ∧ handle.count kind = .error cause ∧
      ∀ id, handle.get kind id = .error cause := by
  have tabled : ∃ cause, Repository.table handle.content kind = .error cause := by
    rw [Repository.table, Database.rows, missing]
    exact ⟨_, rfl⟩
  obtain ⟨cause, tabled⟩ := tabled
  refine ⟨.ofRepository cause, ?_, ?_, fun id => ?_⟩
  · rw [list, Repository.list, tabled]
    rfl
  · rw [count, Repository.count, tabled]
    rfl
  · rw [get, Repository.get, tabled]
    rfl

/-- The client is the first one that is listed. -/
theorem run_getClient (handle : Handle) : Work.run Graph.getClient.run handle =
    (handle.list .client >>= fun clients =>
      match clients.head? with
      | some client => .ok client
      | none => .error (.notFound ⟨.client, ""⟩), handle) := by
  rw [Graph.getClient, Transaction.run_bind]
  show Work.run (ExceptT.bindCont _ (handle.list .client)) handle = _
  cases handle.list .client with
  | error cause => rfl
  | ok clients => cases clients <;> rfl

end Handle

/-- **Lists agree with single reads**, whatever the rows hold and whoever wrote them. The objects
of a kind are listed exactly if each of them is read under the id of its row, and then the list
is made of these, in the strictly increasing order of the ids of their rows, one for each row, as
many as are counted; and the client is the first one of its list, or not found if there is none.
If one object is not read, no part of the list is given, only the failure of one of its objects.
Without a table all of these fail alike. -/
theorem lists_agree_with_single_reads (handle : Handle) :
    (∀ (kind : Kind) (table : Table), handle.content.tables.get? kind = some table →
      handle.ListsRows kind table) ∧
    (∀ kind, handle.content.tables.get? kind = none →
      ∃ cause, handle.list kind = .error cause ∧ handle.count kind = .error cause ∧
        ∀ id, handle.get kind id = .error cause) ∧
    Work.run Graph.getClient.run handle =
      (handle.list .client >>= fun clients =>
        match clients.head? with
        | some client => .ok client
        | none => .error (.notFound ⟨.client, ""⟩), handle) :=
  ⟨fun _ _ => Handle.listsRows, fun _ => Handle.exists_cause_of_no_table, handle.run_getClient⟩

/-- Two tabs that the store has not written, one under an id that is not its own, the other as an
array, are listed with the versions of their rows. -/
theorem foreign_tabs_are_listed :
    let table : Table := ((∅ : Table).insert "a" ⟨7, "\x7b\"oid\":\"x\"\x7d"⟩).insert "c"
      ⟨2, "[\"c\",1,\"n\",[]]"⟩
    let handle := Handle.start (Database.vacant.withTable .tab table) true default 0
    handle.content.tables.get? .tab = some table ∧
      handle.list .tab = .ok [⟨"x", 7, "", []⟩, ⟨"c", 2, "n", []⟩] ∧ handle.count .tab = .ok 2 := by
  intro table handle
  have held : handle.content.tables.get? .tab = some table := by decide +kernel
  have first : handle.get .tab "a" = .ok (some ⟨"x", 7, "", []⟩) := by decide +kernel
  have second : handle.get .tab "c" = .ok (some ⟨"c", 2, "n", []⟩) := by decide +kernel
  obtain ⟨lists, _⟩ := lists_agree_with_single_reads handle
  have listed := ((lists .tab table held).each _).2 (.cons first (.cons second .nil))
  exact ⟨held, listed, (lists .tab table held).counted _ listed⟩

end ScopedStore
