import ScopedStore.Proofs.VersionLaw

/-!
# Ids that are used again

An object that is stored needs a free row, and nothing else: the tombstones are not asked. So the
id of a deleted object is free again, and whoever stores another object of the kind under it
succeeds (`Becomes.insert_of_deleted`); the database then has a row and a tombstone of the same
address.

This is the one way in which it comes about. On a database that began empty an address has both
exactly if, of the writes in effect, one has deleted it and a later one has stored it again
(`Becomes.stored_and_buried_iff`). Then it was stored twice (`StoredAgain.stored_twice`); so where
no id is given to two objects of a kind, what was deleted does not come back.
-/

set_option autoImplicit false

namespace ScopedStore

/-- Among writes of which the last one is first: the address was deleted, and behind its last
deletion an object was stored at it. -/
def StoredAgain (ref : Ref) (writes : List Write) : Prop :=
  ∃ later record earlier, writes = later ++ .inserted record :: earlier ∧ record.ref = ref ∧
    .deleted ref ∈ earlier ∧ .deleted ref ∉ later

/-- Among writes of which the last one is first: objects were stored at the address both before and
behind a deletion of it. -/
def StoredTwice (ref : Ref) (writes : List Write) : Prop :=
  ∃ first second, Record.ref first = ref ∧ Record.ref second = ref ∧
    [.inserted second, .deleted ref, .inserted first].Sublist writes

namespace StoredAgain

variable {ref : Ref} {write : Write} {earlier : List Write}

theorem not_nil : ¬StoredAgain ref [] := by
  rintro ⟨later, record, earlier, split, _⟩
  cases later <;> cases split

/-- A write that neither deletes the address nor stores an object at it makes no difference. -/
theorem cons_iff_of_other (stays : write ≠ .deleted ref)
    (others : ∀ record, write = .inserted record → record.ref ≠ ref) :
    StoredAgain ref (write :: earlier) ↔ StoredAgain ref earlier := by
  constructor
  · rintro ⟨later, record, before, split, address, deleted, since⟩
    cases later with
    | nil =>
        cases split
        exact absurd address (others record rfl)
    | cons last later =>
        obtain ⟨rfl, rfl⟩ := List.cons.inj split
        exact ⟨later, record, before, rfl, address, deleted,
          fun member => since (List.mem_cons_of_mem _ member)⟩
  · rintro ⟨later, record, before, rfl, address, deleted, since⟩
    refine ⟨write :: later, record, before, rfl, address, deleted, fun member => ?_⟩
    rcases List.mem_cons.1 member with same | behind
    · exact stays same.symm
    · exact since behind

/-- Behind an insertion the question is whether there was a deletion before. -/
theorem cons_inserted_iff {record : Record} (address : record.ref = ref) :
    StoredAgain ref (.inserted record :: earlier) ↔ .deleted ref ∈ earlier := by
  constructor
  · rintro ⟨later, other, before, split, _, deleted, _⟩
    cases later with
    | nil =>
        cases split
        exact deleted
    | cons last later =>
        obtain ⟨_, rfl⟩ := List.cons.inj split
        exact List.mem_append_right later (List.mem_cons_of_mem _ deleted)
  · exact fun deleted => ⟨[], record, earlier, rfl, address, deleted, List.not_mem_nil⟩

theorem not_cons_deleted : ¬StoredAgain ref (.deleted ref :: earlier) := by
  rintro ⟨later, record, before, split, _, _, since⟩
  cases later with
  | nil => cases split
  | cons last later =>
      obtain ⟨rfl, _⟩ := List.cons.inj split
      exact since List.mem_cons_self

end StoredAgain

namespace Becomes

variable {first now : Database} {writes : List Write} {ref : Ref}

/-- There is a tombstone of what had one at first, and of what was deleted. -/
theorem buried_iff (becomes : Becomes first writes now) :
    now.Buried ref ↔ first.Buried ref ∨ .deleted ref ∈ writes := by
  induction becomes with
  | nil => simp
  | cons rest fits time ih =>
      rw [Write.buried_apply_iff fits, ih, List.mem_cons, or_assoc, or_comm (a := _ ∈ _),
        eq_comm (a := Write.deleted ref)]

theorem buried_iff_of_vacant (becomes : Becomes .vacant writes now) :
    now.Buried ref ↔ .deleted ref ∈ writes := by
  rw [becomes.buried_iff]
  refine or_iff_right ?_
  rintro ⟨tombstones, held, member⟩
  cases held
  cases member

/-- What was deleted had been stored. -/
theorem inserted_of_deleted (becomes : Becomes .vacant writes now)
    (deleted : .deleted ref ∈ writes) :
    ∃ record, record.ref = ref ∧ [.deleted ref, .inserted record].Sublist writes := by
  induction becomes with
  | nil => cases deleted
  | @cons write earlier middle rest fits time ih =>
      rcases List.mem_cons.1 deleted with rfl | member
      · cases fits with
        | deleted held _ =>
            obtain ⟨⟨record, stored⟩, _⟩ := rest.version_eq held
            obtain ⟨member, address⟩ := mem_writesOf.1 stored
            exact ⟨record, address, (List.singleton_sublist.2 member).cons_cons _⟩
      · obtain ⟨record, address, sublist⟩ := ih member
        exact ⟨record, address, sublist.cons _⟩

/-- **An address has both a row and a tombstone exactly if it was deleted and something was stored
at it again.** -/
theorem stored_and_buried_iff (becomes : Becomes .vacant writes now) :
    (now.row? ref).isSome ∧ now.Buried ref ↔ StoredAgain ref writes := by
  induction becomes with
  | nil => simp [Database.row?_vacant, StoredAgain.not_nil]
  | @cons write earlier middle rest fits time ih =>
      rw [Write.row?_apply fits, Write.buried_apply_iff fits]
      by_cases here : ref = write.ref
      · rw [if_pos here]
        cases fits with
        | @inserted record _ _ _ _ =>
            rw [StoredAgain.cons_inserted_iff here.symm, ← rest.buried_iff_of_vacant]
            simp [Write.row?]
        | @updated record row held next =>
            have present : (middle.row? ref).isSome := here ▸ held ▸ rfl
            rw [StoredAgain.cons_iff_of_other (by simp) (by simp), ← ih]
            simp [Write.row?, present]
        | @deleted gone _ _ _ _ =>
            obtain rfl : ref = gone := here
            simp [Write.row?, StoredAgain.not_cons_deleted]
      · have stays : write ≠ .deleted ref := fun same => here (same ▸ rfl)
        rw [if_neg here, StoredAgain.cons_iff_of_other stays fun record same address =>
          here (same ▸ address.symm), ← ih, or_iff_left stays]

/-- **Nothing is in the way of storing another object at an address that was deleted.** -/
theorem insert_of_deleted {handle : Handle} {kind : Kind} {body : kind.Body}
    (becomes : Becomes .vacant writes handle.content)
    (deleted : .deleted (kind.ref body) ∈ writes)
    (free : handle.content.row? (kind.ref body) = none) :
    ∃ after, handle.insert kind body = .ok (kind.withVersion body 1, after) ∧
      (after.content.row? (kind.ref body)).isSome ∧ after.content.Buried (kind.ref body) := by
  have tabled : (handle.content.tables.get? kind).isSome :=
    (becomes.isSome_table kind).trans (Database.exists_table_vacant kind)
  have done := Handle.insert_of_free tabled free
  obtain ⟨_, fits, _⟩ := Handle.insert_eq_ok done
  refine ⟨_, done, ?_, ?_⟩
  · have stored := Write.row?_apply_self fits handle.now
    rw [Handle.content_wrote]
    exact (congrArg Option.isSome ((congrArg _ (kind.ref_withVersion body 1).symm).trans stored))
  · rw [Handle.content_wrote]
    exact Write.buried_apply _ _ (becomes.buried_iff_of_vacant.2 deleted)

end Becomes

/-- What is stored again was stored before. -/
theorem StoredAgain.stored_twice {ref : Ref} {writes : List Write} {now : Database}
    (becomes : Becomes .vacant writes now) (again : StoredAgain ref writes) :
    StoredTwice ref writes := by
  obtain ⟨later, second, earlier, rfl, address, deleted, _⟩ := again
  obtain ⟨middle, before, _⟩ := becomes.split
  cases before with
  | cons rest _ _ =>
      obtain ⟨first, stored, sublist⟩ := rest.inserted_of_deleted deleted
      exact ⟨first, second, stored, address,
        (sublist.cons_cons _).trans (List.sublist_append_right later _)⟩

/-- **Ids are used again exactly where somebody stores an object under the id of a deleted one.**
Take any run of transactions and scopes on a database that began empty. At every point of it an
address has a row and a tombstone exactly if it was deleted and an object was stored at it again,
of what is in effect. Where an address was deleted and has no row, storing an object at it succeeds
and leaves both. But an address at which no two objects were stored never has both. -/
theorem stored_and_buried_iff_stored_again (tracked : Bool) (ids : IdSource) (now : Int)
    (acts : List Act) :
    let start := Handle.start .vacant tracked ids now
    let handle := start.live acts
    let writes := (Journal.blank.through (start.story acts)).inEffect
    (∀ ref, (handle.content.row? ref).isSome ∧ handle.content.Buried ref ↔
      StoredAgain ref writes) ∧
    (∀ (kind : Kind) (body : kind.Body), .deleted (kind.ref body) ∈ writes →
      handle.content.row? (kind.ref body) = none →
        ∃ after, handle.insert kind body = .ok (kind.withVersion body 1, after) ∧
          (after.content.row? (kind.ref body)).isSome ∧
          after.content.Buried (kind.ref body)) ∧
    (∀ ref, ¬StoredTwice ref writes →
      ¬((handle.content.row? ref).isSome ∧ handle.content.Buried ref)) := by
  intro start handle writes
  have becomes : Becomes .vacant writes handle.content :=
    ((Handle.lives_start .vacant tracked ids now).live acts).becomes
  refine ⟨fun ref => becomes.stored_and_buried_iff,
    fun kind body deleted free => becomes.insert_of_deleted deleted free, fun ref once both => ?_⟩
  exact once ((becomes.stored_and_buried_iff.1 both).stored_twice becomes)

/-- A tab is stored and deleted by one transaction. -/
def deletedTab : List Act :=
  [.move .openScope, .move (.perform (.insert .tab (Tab.sample 0))),
    .move (.perform (.delete .tab "t")), .move .keepScope, .transact true default 1]

/-- The next transaction may store a tab under its id. -/
theorem deleted_tab_is_stored_again :
    let start := Handle.start .vacant true default 0
    let handle := start.live deletedTab
    .deleted ⟨.tab, "t"⟩ ∈ (Journal.blank.through (start.story deletedTab)).inEffect ∧
      handle.content.row? ⟨.tab, "t"⟩ = none ∧
      ∃ after, handle.insert .tab (Tab.sample 0) = .ok (Tab.sample 1, after) ∧
        (after.content.row? ⟨.tab, "t"⟩).isSome ∧ after.content.Buried ⟨.tab, "t"⟩ := by
  intro start handle
  have deleted : .deleted ⟨.tab, "t"⟩ ∈
      (Journal.blank.through (start.story deletedTab)).inEffect := by decide +kernel
  have free : handle.content.row? ⟨.tab, "t"⟩ = none := by decide +kernel
  exact ⟨deleted, free,
    (stored_and_buried_iff_stored_again true default 0 deletedTab).2.1 .tab (Tab.sample 0) deleted
      free⟩

/-- So a deleted tab and a tab that is there have the same id. -/
theorem tab_is_both_deleted_and_there :
    let again : List Act := [.move .openScope, .move (.perform (.insert .tab (Tab.sample 0))),
      .move .keepScope]
    let handle := (Handle.start .vacant true default 0).live (deletedTab ++ again)
    handle.depth = 0 ∧ (handle.content.row? ⟨.tab, "t"⟩).isSome ∧
      handle.content.Buried ⟨.tab, "t"⟩ := by
  intro again handle
  have graves : handle.content.tombstones =
      some ((∅ : Tombstones).insert (.ofRef ⟨.tab, "t"⟩) 0) := by decide +kernel
  exact ⟨by decide +kernel, by decide +kernel, _, graves, by decide +kernel⟩

end ScopedStore
