import ScopedStore.Proofs.Bodies
import ScopedStore.Proofs.VersionLaw

/-!
# What a row holds

The id and the version of an object are stored twice, in the columns of its row and in its body,
and the body is a text. They agree in every row that transactions have written: a row in effect was
left by a write (`Becomes.row?_eq`), and a write encodes one record into all three
(`Record.row`). The text is the compact one of that record, with the members of every object in the
order of their names. Of the objects that the store builds this is so because they are built from
sorted maps. Of free data it is so as long as the values that are brought in have it, which is a
property that everything made of them inherits (`Json.Inherited.body`).

A write reaches the table of its own kind alone (`Handle.table_perform`), so an id that is used in
several kinds makes no row depend on another.
-/

set_option autoImplicit false

namespace ScopedStore

/-! ## Values in order -/

namespace Json

mutual

/-- The members of every object stand in the order of their names. -/
def Ordered : Json → Prop
  | .array items => OrderedItems items
  | .object members => Entries.Increasing members ∧ OrderedMembers members
  | .null | .bool _ | .integer _ | .double _ | .text _ => True

/-- Every value of the list is in order. -/
def OrderedItems : List Json → Prop
  | [] => True
  | item :: rest => item.Ordered ∧ OrderedItems rest

/-- Every member has a value that is in order. -/
def OrderedMembers : List (String × Json) → Prop
  | [] => True
  | (_, value) :: rest => value.Ordered ∧ OrderedMembers rest

end

theorem orderedItems_iff {items : List Json} :
    OrderedItems items ↔ ∀ item ∈ items, item.Ordered := by
  induction items with
  | nil => simp [OrderedItems]
  | cons item rest ih => simp [OrderedItems, ih]

theorem orderedMembers_iff {members : List (String × Json)} :
    OrderedMembers members ↔ ∀ entry ∈ members, entry.2.Ordered := by
  induction members with
  | nil => simp [OrderedMembers]
  | cons entry rest ih => simp only [OrderedMembers, ih, List.forall_mem_cons]

theorem inherited_ordered : Inherited Ordered where
  null := trivial
  text _ := trivial
  integer _ := trivial
  array all := orderedItems_iff.2 all
  object increasing all := ⟨increasing, orderedMembers_iff.2 all⟩

end Json

/-! ## What is brought in -/

/-- The free data of an object that the move stores has a property. -/
def Move.Brings (property : Json → Prop) : Move → Prop
  | .perform (.insert kind body) | .perform (.update kind body) => kind.FreeData property body
  | _ => True

/-- The free data of an object that the act stores has a property. -/
def Act.Brings (property : Json → Prop) : Act → Prop
  | .move made => made.Brings property
  | .transact .. => True

theorem Kind.freeData_withVersion {property : Json → Prop} {kind : Kind} {body : kind.Body}
    (all : kind.FreeData property body) (version : Int) :
    kind.FreeData property (kind.withVersion body version) := by
  cases kind <;> exact all

namespace Handle

variable {handle : Handle} {property : Json → Prop}

/-- What a move writes has the free data that it brings. -/
theorem freeData_of_deed {move : Move} (brings : move.Brings property) {write : Write}
    (wrote : handle.deed move = .wrote write) {record : Record}
    (stored : write.change = .updated record) : record.kind.FreeData property record.body := by
  cases move with
  | openScope => cases wrote
  | keepScope | discardScope =>
      rw [deed] at wrote
      split at wrote <;> cases wrote
  | perform operation =>
      rw [deed] at wrote
      cases operation with
      | insert kind body =>
          simp only [Operation.deed] at wrote
          split at wrote
          · rename_i after answer
            cases wrote
            cases Option.some.inj (congrArg Change.record stored)
            obtain ⟨_, done, _⟩ := settle_eq_ok answer
            rw [(insert_eq_ok done).1]
            exact kind.freeData_withVersion brings 1
          · cases wrote
      | update kind body =>
          simp only [Operation.deed] at wrote
          split at wrote
          · rename_i after answer
            cases wrote
            cases Option.some.inj (congrArg Change.record stored)
            obtain ⟨_, done, _⟩ := settle_eq_ok answer
            rw [(update_eq_ok done).1]
            exact kind.freeData_withVersion brings _
          · cases wrote
      | delete kind id =>
          simp only [Operation.deed] at wrote
          split at wrote
          · cases wrote
            cases congrArg Change.record stored
          · cases wrote
          · cases wrote
      | _ => cases wrote

/-- What some acts write has the free data that they bring. -/
theorem freeData_of_story {acts : List Act} (brings : ∀ act ∈ acts, act.Brings property)
    {write : Write} (wrote : .did (.wrote write) ∈ handle.story acts) {record : Record}
    (stored : write.change = .updated record) : record.kind.FreeData property record.body := by
  induction acts generalizing handle with
  | nil => cases wrote
  | cons first rest ih =>
      obtain ⟨here, there⟩ := List.forall_mem_cons.1 brings
      rcases List.mem_cons.1 wrote with now | later
      · cases first with
        | move move => exact freeData_of_deed here (Happening.did.inj now).symm stored
        | transact tracked ids time =>
            rw [happening] at now
            split at now <;> cases now
      · exact ih there later

/-- **A row holds what a write has left.** -/
theorem Lives.exists_record (lives : handle.Lives .vacant .blank) {acts : List Act} {ref : Ref}
    {row : Row} (found : (handle.live acts).content.row? ref = some row) :
    ∃ record : Record, record.ref = ref ∧ row = record.row ∧ 1 ≤ record.version ∧
      ∀ property, (∀ act ∈ acts, act.Brings property) →
        record.kind.FreeData property record.body := by
  have becomes := (lives.live acts).becomes
  have counts := (becomes.version_eq found).2
  have left := becomes.row?_eq ref
  rw [found, Database.row?_vacant] at left
  generalize inEffect : writesOf ref
    (Journal.blank.through (handle.story acts)).inEffect = writes at left counts
  cases writes with
  | nil => cases left
  | cons write earlier =>
      have last : write.row? = some row := left.symm
      obtain ⟨member, address⟩ := mem_writesOf.1 (inEffect ▸ List.mem_cons_self : write ∈ _)
      have wrote : .did (.wrote write) ∈ handle.story acts :=
        (Journal.mem_story_of_inEffect member).resolve_right nofun
      cases write with
      | inserted record | updated record =>
          cases last
          refine ⟨record, address, rfl, ?_, fun property brings =>
            freeData_of_story brings wrote rfl⟩
          have version : record.version = 1 + updatesSinceInsertion _ := counts
          omega
      | deleted gone => cases last

end Handle

/-! ## Tables -/

/-- The kind whose table an operation may change. -/
def Operation.target {α : Type} : Operation α → Option Kind
  | .insert kind _ | .update kind _ | .delete kind _ => some kind
  | _ => none

/-- A write goes to the table that its operation names. -/
theorem Operation.target_of_deed {α : Type} {operation : Operation α} {answer : α} {write : Write}
    (wrote : operation.deed answer = .wrote write) : operation.target = some write.ref.kind := by
  cases operation with
  | insert kind body | update kind body =>
      simp only [deed] at wrote
      split at wrote
      · cases wrote
        rfl
      · cases wrote
  | delete kind id =>
      simp only [deed] at wrote
      split at wrote
      · cases wrote
        rfl
      · cases wrote
      · cases wrote
  | _ => cases wrote

/-- **An operation leaves the tables of other kinds alone.** -/
theorem Handle.table_perform (handle : Handle) {α : Type} (operation : Operation α) {kind : Kind}
    (other : operation.target ≠ some kind) :
    (handle.perform operation).2.content.tables.get? kind = handle.content.tables.get? kind := by
  have does := handle.does_perform operation
  generalize done : operation.deed (handle.perform operation).1 = deed at does
  generalize (handle.perform operation).2 = after at does
  cases does with
  | quiet ids log => rfl
  | recorded _ change => rfl
  | @wrote _ write fits =>
      obtain ⟨table, changed, _, _, applied⟩ := fits.tables_apply handle.now
      rw [content_wrote, applied, Database.table_withTable, if_neg]
      intro same
      exact other (same ▸ Operation.target_of_deed done)
  | opened | kept => rfl
  | discarded => exact absurd done (operation.deed_flat _).2.2

/-- **Every row represents a record.** At every point of a run on a database that transactions
alone have written, whatever of it is undone, every kind has a table with one row for each id. Each
row is a record of the kind with that id and with the version of the row, which is at least 1, and
its body is the compact text of the record; the members of every object in it stand in the order of
their names if this is so of all free data that was brought in. And an operation changes nothing in
the tables of other kinds than its own. -/
theorem rows_represent_records :
    (∀ (tracked : Bool) (ids : IdSource) (now : Int) (acts : List Act) (kind : Kind),
      ∃ table : Table,
        ((Handle.start .vacant tracked ids now).live acts).content.tables.get? kind = some table ∧
        (table.entries.map Prod.fst).Nodup ∧
        ∀ id row, (id, row) ∈ table.entries → ∃ body : kind.Body,
          kind.id body = id ∧ kind.version body = row.version ∧ 1 ≤ row.version ∧
          row.body = (kind.bodyFormat.write body).render ∧
          ((∀ act ∈ acts, act.Brings Json.Ordered) → (kind.bodyFormat.write body).Ordered)) ∧
    (∀ (handle : Handle) {α : Type} (operation : Operation α) (kind : Kind),
      operation.target ≠ some kind →
        (handle.perform operation).2.content.tables.get? kind =
          handle.content.tables.get? kind) := by
  refine ⟨?_, fun handle α operation kind other => handle.table_perform operation other⟩
  intro tracked ids now acts kind
  have lives := Handle.lives_start .vacant tracked ids now
  have tables := ((lives.live acts).becomes.isSome_table kind).trans
    (Database.exists_table_vacant kind)
  obtain ⟨table, found⟩ := Option.isSome_iff_exists.1 tables
  refine ⟨table, found, ?_, fun id row member => ?_⟩
  · refine List.Pairwise.map Prod.fst (fun earlier later smaller same => ?_) table.increasing
    simp [same] at smaller
  · have inTable : Database.row? _ ⟨kind, id⟩ = table.get? id := Database.row?_of_table found
    obtain ⟨⟨recordKind, body⟩, address, rfl, version, data⟩ :=
      lives.exists_record (inTable.trans ((table.get?_eq_some_iff id row).2 member))
    cases address
    exact ⟨body, rfl, rfl, version, rfl, fun brings =>
      Json.inherited_ordered.body trivial (data _ brings)⟩

/-- A tab and a workspace are stored under one id, and the tab is updated. -/
def sharedId : List Act :=
  [.move (.perform (.insert .tab (Tab.sample 0))),
    .move (.perform (.insert .workspace (Workspace.new "t" "shared"))),
    .move (.perform (.update .tab (Tab.sample 1)))]

/-- The tab is in its row as it was updated, and the row of the workspace is left alone. -/
theorem shared_id_rows_represent_records :
    let handle := (Handle.start .vacant true default 0).live sharedId
    (∃ body : Tab, Tab.id body = "t" ∧ Tab.version body = 2 ∧
      Record.row ⟨.tab, Tab.sample 2⟩ = ⟨2, (Kind.tab.bodyFormat.write body).render⟩ ∧
      (Kind.tab.bodyFormat.write body).Ordered) ∧
    Operation.target (.update .tab (Tab.sample 2)) ≠ some .workspace ∧
      (handle.perform (.update .tab (Tab.sample 2))).2.content.tables.get? .workspace =
        handle.content.tables.get? .workspace := by
  intro handle
  have row : handle.content.row? ⟨.tab, "t"⟩ = some (Record.row ⟨.tab, Tab.sample 2⟩) := by
    decide +kernel
  have brings : ∀ act ∈ sharedId, act.Brings Json.Ordered := by
    simp [sharedId, Act.Brings, Move.Brings, Kind.FreeData]
  have other : Operation.target (.update .tab (Tab.sample 2)) ≠ some .workspace := by decide
  obtain ⟨table, found, _, rows⟩ := rows_represent_records.1 true default 0 sharedId .tab
  have inTable : handle.content.row? ⟨.tab, "t"⟩ = table.get? "t" := Database.row?_of_table found
  have member : ("t", Record.row ⟨.tab, Tab.sample 2⟩) ∈ table.entries :=
    (table.get?_eq_some_iff _ _).1 (inTable.symm.trans row)
  obtain ⟨body, id, version, _, text, ordered⟩ := rows _ _ member
  refine ⟨⟨body, id, version, ?_, ordered brings⟩, other,
    rows_represent_records.2 handle _ .workspace other⟩
  rw [← text]
  rfl

end ScopedStore
