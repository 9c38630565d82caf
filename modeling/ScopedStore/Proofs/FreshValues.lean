import ScopedStore.Proofs.Pending
import ScopedStore.Proofs.StoredIds
import ScopedStore.Proofs.UndoneValues

/-!
# Updates with values that were just read

A value that was just read has the version of its row, yet the handle leads every version back by
what it remembers of the object, and cannot see that this one is not left over from an undone
update. So a value that was just read is taken exactly if no undone update is remembered that
ended at its version and began at another one. For an object that was never deleted in the
transaction this is so, since all that is remembered of it begins at its row (`Handle.Steady`). But
an object that is deleted and stored again starts anew at version 1, below the version to which
its row comes back when all this is undone, and then the value is refused.

That a value is compared with the row from which it was read needs that rows hold what belongs at
their address, as they do in every database that transactions have written
(`Database.Written.genuine`).
-/

set_option autoImplicit false

namespace ScopedStore

/-! ## Databases that transactions have written -/

namespace Database

/-- Every row holds a record of its address. -/
def Genuine (database : Database) : Prop :=
  ∀ ref row, database.row? ref = some row → ∃ record : Record, record.ref = ref ∧ row = record.row

/-- The database was written by transactions: it is the content at some point of one that began
with a database written before, the first one with nothing. -/
inductive Written : Database → Prop
  | vacant : Written vacant
  | play {database : Database} (written : Written database) (tracked : Bool) (ids : IdSource)
      (now : Int) (moves : List Move) :
      Written ((Handle.start database tracked ids now).play moves).content

theorem genuine_vacant : vacant.Genuine := by
  intro ref row found
  rw [row?_vacant] at found
  cases found

end Database

theorem Write.genuine_apply {database : Database} {write : Write} (fits : write.Fits database)
    (now : Int) (genuine : database.Genuine) : (write.apply now database).Genuine := by
  intro ref row found
  rw [row?_apply fits] at found
  split at found
  · rename_i here
    cases write with
    | inserted record | updated record =>
        cases found
        exact ⟨record, here.symm, rfl⟩
    | deleted gone => cases found
  · exact genuine ref row found

namespace Handle

/-- The content and the saved contents hold in their rows what belongs there. -/
def Genuine (handle : Handle) : Prop :=
  ∀ content ∈ handle.content :: handle.saved, content.Genuine

theorem genuine_start {database : Database} (genuine : database.Genuine) (tracked : Bool)
    (ids : IdSource) (now : Int) : (start database tracked ids now).Genuine :=
  List.forall_mem_singleton.2 genuine

theorem Does.genuine {deed : Deed} {before after : Handle} (does : Does deed before after)
    (lockstep : before.Lockstep) (genuine : before.Genuine) : after.Genuine := by
  cases does with
  | quiet ids log => exact genuine
  | recorded _ change => exact genuine
  | @wrote _ write fits =>
      obtain ⟨present, saved⟩ := List.forall_mem_cons.1 genuine
      rw [Genuine, saved_wrote, content_wrote]
      exact List.forall_mem_cons.2 ⟨write.genuine_apply fits before.now present, saved⟩
  | opened => exact List.forall_mem_cons.2 ⟨genuine _ List.mem_cons_self, genuine⟩
  | kept opened => exact forall_contents_kept genuine
  | discarded opened => exact forall_contents_dropped lockstep opened genuine

theorem Lockstep.genuine_play {handle : Handle} (lockstep : handle.Lockstep)
    (genuine : handle.Genuine) (moves : List Move) : (handle.play moves).Genuine :=
  lockstep.play_induction (motive := fun _ handle => handle.Genuine)
    (fun lockstep does genuine => does.genuine lockstep genuine) genuine moves

end Handle

/-- **Every row of a written database holds a record of its address.** -/
theorem Database.Written.genuine {database : Database} (written : database.Written) :
    database.Genuine := by
  induction written with
  | vacant => exact genuine_vacant
  | @play earlier _ tracked ids now moves ih =>
      have start := Handle.genuine_start ih tracked ids now
      have lockstep := Handle.lockstep_start earlier tracked ids now
      exact lockstep.genuine_play start moves _ List.mem_cons_self

/-- Whatever becomes of a transaction, it leaves a written database. -/
theorem Store.written_attempt {store : Store} (written : store.database.Written) (tracked : Bool)
    {α : Type} (work : Work α) (ending : α → Ending) :
    (store.attempt tracked work ending).2.database.Written := by
  by_cases committed : (store.attempt tracked work ending).1.Committed ending
  · rw [(store.attempt_of_committed tracked work ending committed).2, work.run_eq_play]
    exact .play written tracked store.ids store.now (.openScope :: _)
  · obtain ⟨_, ids, log, after⟩ := store.attempt_of_failed tracked work ending committed
    rw [after]
    exact written

/-! ## Reading -/

/-- A row that holds a record is read as an object with the id of that record and with the version
of the row. -/
theorem Handle.decode_eq_ok {ref : Ref} {row : Row} {parsed : StoredRecord}
    (readable : Repository.toRecord ref row = .ok parsed) {kind : Kind} {body value : kind.Body}
    (holds : row = Record.row ⟨kind, body⟩) (decoded : decode kind parsed = .ok value) :
    kind.id value = kind.id body ∧ kind.version value = row.version := by
  rw [Repository.toRecord] at readable
  split at readable
  · rename_i data parses
    cases readable
    rw [decode] at decoded
    split at decoded
    · rename_i again read
      cases decoded
      rw [holds] at parses
      rw [Kind.id_withVersion, Kind.version_withVersion]
      exact ⟨kind.id_of_stored parses read, rfl⟩
    · cases decoded
  · cases readable

/-- What is read at an address is an object of that address, with the version of its row. -/
theorem Handle.get_eq_ok {handle : Handle} (genuine : handle.content.Genuine) {kind : Kind}
    {id : String} {value : kind.Body} (read : handle.get kind id = .ok (some value)) :
    ∃ row, handle.content.row? ⟨kind, id⟩ = some row ∧ kind.ref value = ⟨kind, id⟩ ∧
      kind.version value = row.version := by
  obtain ⟨stored, found, rest⟩ := bind_eq_ok.1 read
  obtain ⟨table, held, looked⟩ := bind_eq_ok.1 (mapError_eq_ok.1 found)
  have inTable := Repository.table_eq_ok.1 held
  split at looked
  · cases looked
    cases rest
  · rename_i row inRow
    obtain ⟨parsed, readable, same⟩ := bind_eq_ok.1 looked
    cases same
    obtain ⟨body, decoded, same⟩ := bind_eq_ok.1 rest
    cases same
    have stored := (Database.row?_of_table inTable).trans inRow
    obtain ⟨⟨recordKind, original⟩, address, holds⟩ := genuine ⟨kind, id⟩ row stored
    cases address
    obtain ⟨sameId, version⟩ := decode_eq_ok readable holds decoded
    exact ⟨row, stored, congrArg (Ref.mk recordKind) sameId, version⟩

theorem leadBack_eq_self_iff (remembered : Option VersionSpan) (version : Int) :
    leadBack remembered version = version ↔
      ∀ span, remembered = some span → span.latest = version → span.base = version := by
  cases remembered with
  | none => exact ⟨fun _ _ => nofun, fun _ => rfl⟩
  | some span =>
      rw [leadBack]
      by_cases own : span.latest = version
      · rw [if_pos own]
        exact ⟨fun base other same _ => Option.some.inj same ▸ base,
          fun all => all span rfl own⟩
      · rw [if_neg own]
        exact ⟨fun _ other same ends => absurd (Option.some.inj same ▸ ends) own, fun _ => rfl⟩

/-- **When a value that was just read is taken.** In a transaction on a written database, a value
that was just read is taken as the next version of its object exactly if no undone update of the
object is remembered that ended at its version and began at another one; otherwise the versions
are in conflict. If the object was not deleted in the transaction, the value is taken. -/
theorem freshly_read_value_accepted_iff {database : Database} (written : database.Written)
    (tracked : Bool) (ids : IdSource) (now : Int) (moves : List Move) {kind : Kind} {id : String}
    {value : kind.Body} :
    let start := Handle.start database tracked ids now
    let present := start.play moves
    let past := start.history moves
    let remembered := memory ⟨kind, id⟩ (Journal.blank.afterAll past).entries
    present.get kind id = .ok (some value) →
      (present.Accepts kind value (kind.version value + 1) ↔
        ∀ span, remembered = some span → span.latest = kind.version value →
          span.base = kind.version value) ∧
      (¬present.Accepts kind value (kind.version value + 1) →
        present.update kind value = .error (.versionConflict ⟨kind, id⟩
          (leadBack remembered (kind.version value)) (kind.version value))) ∧
      (.wrote (.deleted ⟨kind, id⟩) ∉ past →
        present.Accepts kind value (kind.version value + 1)) := by
  intro start present past remembered read
  have lockstep := Handle.lockstep_start database tracked ids now
  have genuine := lockstep.genuine_play (Handle.genuine_start written.genuine tracked ids now)
    moves
  obtain ⟨row, stored, address, version⟩ :=
    Handle.get_eq_ok (genuine _ List.mem_cons_self) read
  have follows := lockstep.follows_play (Handle.follows_start database tracked ids now) moves
  rw [← address] at stored
  obtain ⟨accepts, conflict⟩ := follows.accepts_iff stored
  -- The value has the version of its row, so it is taken if nothing leads it back to another one.
  rw [← version, address] at accepts conflict
  have taken := accepts.trans (leadBack_eq_self_iff remembered (kind.version value))
  refine ⟨taken, fun refused => conflict fun same => refused (accepts.2 same), fun stays => ?_⟩
  have steady := lockstep.steady_play (Handle.steady_start database tracked ids now) moves stays
  refine taken.2 fun span known _ => ?_
  have found := (follows.undone ⟨kind, id⟩).trans known
  have base := (steady.undone span found).1
  rw [← address, Database.standing_of_row stored, ← version] at base
  exact base

/-- A tab that was stored and then updated once. -/
def Database.withUpdatedTab : Database :=
  ((Handle.start .vacant true default 0).play
    [.perform (.insert .tab (Tab.sample 0)), .perform (.update .tab (Tab.sample 1))]).content

theorem Database.written_withUpdatedTab : Database.withUpdatedTab.Written :=
  .play .vacant true default 0 _

/-- A tab is read when an update of it was undone. -/
def readAfterUpdate : List Move :=
  [.openScope, .perform (.update .tab (Tab.sample 2)), .discardScope]

/-- A tab is read when it was deleted, stored again and updated, and all this was undone, the
update first. -/
def readAfterReplacement : List Move :=
  [.openScope, .perform (.delete .tab "t"), .perform (.insert .tab (Tab.sample 0)), .openScope,
    .perform (.update .tab (Tab.sample 1)), .discardScope, .discardScope]

open Handle in
/-- What is read when an update was undone is taken. -/
theorem freshly_read_value_is_taken :
    let present := (start .withUpdatedTab true default 0).play readAfterUpdate
    present.get .tab "t" = .ok (some (Tab.sample 2)) ∧ present.Accepts .tab (Tab.sample 2) 3 := by
  intro present
  have read : present.get .tab "t" = .ok (some (Tab.sample 2)) := by decide +kernel
  have kept : .wrote (.deleted ⟨.tab, "t"⟩) ∉
      (start .withUpdatedTab true default 0).history readAfterUpdate := by decide +kernel
  exact ⟨read, (freshly_read_value_accepted_iff Database.written_withUpdatedTab true default 0
    readAfterUpdate read).2.2 kept⟩

open Handle in
/-- What is read when a deletion and an update of the new object were undone is refused. -/
theorem freshly_read_value_is_refused :
    let present := (start .withUpdatedTab true default 0).play readAfterReplacement
    present.get .tab "t" = .ok (some (Tab.sample 2)) ∧
      present.update .tab (Tab.sample 2) = .error (.versionConflict ⟨.tab, "t"⟩ 1 2) := by
  intro present
  have conflict : (present.update .tab (Tab.sample 2)).map Prod.fst =
      .error (.versionConflict ⟨.tab, "t"⟩ 1 2) := by decide +kernel
  exact ⟨by decide +kernel, map_eq_error.1 conflict⟩

end ScopedStore
