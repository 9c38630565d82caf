import ScopedStore.Proofs.Failures
import ScopedStore.Proofs.Layers
import ScopedStore.Proofs.Topics

/-!
# Pending changes are the difference

The pending changes of a tracked transaction tell exactly how its rows differ from those at its
beginning. This cannot be seen from all frames together, because a scope may be discarded at any
time. It holds for every frame on its own: the frame of a scope is the difference between the
content from which the scope set out and the one of the scope inside it (`Delta`). Frames that
follow each other can be laid over each other (`Delta.trans`), which is what keeping a scope
does, and what the snapshot does with all of them.
-/

set_option autoImplicit false

namespace ScopedStore

/-! ## Changes and rows -/

/-- The database shows what a change tells: the record in its row as it is encoded, or no row and
a tombstone. -/
inductive Database.Shows (database : Database) : Change → Prop
  | updated (record : Record) (held : database.row? record.ref = some record.row) :
      Shows database (.updated record)
  | deleted (ref : Ref) (gone : database.row? ref = none) (buried : database.Buried ref) :
      Shows database (.deleted ref)

namespace Database.Shows

variable {database after : Database} {change : Change}

/-- What is shown depends on the row of the object and its tombstone. -/
theorem of_row (shown : database.Shows change) (row : after.row? change.ref = database.row? change.ref)
    (tombstone : database.Buried change.ref → after.Buried change.ref) : after.Shows change := by
  cases shown with
  | updated record held => exact .updated record (row.trans held)
  | deleted ref gone buried => exact .deleted ref (row.trans gone) (tombstone buried)

/-- The row that a shown change names. -/
theorem row?_eq (shown : database.Shows change) :
    database.row? change.ref = change.record.map Record.row := by
  cases shown with
  | updated record held => exact held
  | deleted ref gone buried => exact gone

/-- What is shown of an object stays when another one is written. -/
theorem apply (shown : database.Shows change) {write : Write} (fits : write.Fits database)
    (now : Int) (other : change.ref ≠ write.ref) : (write.apply now database).Shows change := by
  refine shown.of_row ?_ (write.buried_apply now)
  rw [Write.row?_apply fits, if_neg other]

end Database.Shows

/-- A write shows in the row that it has changed. -/
theorem Write.shows_apply {database : Database} {write : Write} (fits : write.Fits database)
    (now : Int) : (write.apply now database).Shows write.change := by
  have row := Write.row?_apply_self fits now
  cases write with
  | inserted record | updated record => exact .updated record row
  | deleted ref => exact .deleted ref row (Write.buried_apply_deleted fits now)

/-- What one content has become in another, as a frame tells it: what the frame does not name is as
it was, and what it names has a table and is as the frame says. -/
structure Delta (before : Database) (frame : Frame) (after : Database) : Prop where
  kinds : ∀ kind, (after.tables.get? kind).isSome = (before.tables.get? kind).isSome
  untouched : ∀ ref, frame.get? ref = none → after.row? ref = before.row? ref
  shown : ∀ ref change, frame.get? ref = some change → change.ref = ref ∧ after.Shows change
  tabled : ∀ ref change, frame.get? ref = some change → (before.tables.get? ref.kind).isSome
  buried : ∀ ref, before.Buried ref → after.Buried ref

namespace Delta

variable {before middle after : Database} {frame : Frame}

/-- Where nothing was done there is no difference. -/
theorem refl (database : Database) : Delta database ∅ database where
  kinds _ := rfl
  untouched _ _ := rfl
  shown _ _ found := (nomatch found)
  tabled _ _ found := (nomatch found)
  buried _ buried := buried

/-- A write is recorded as what it has done. -/
theorem wrote (delta : Delta before frame middle) {write : Write} (fits : write.Fits middle)
    (now : Int) :
    Delta before (frame.insert write.change.ref write.change) (write.apply now middle) where
  kinds kind := (write.isSome_table_apply fits now kind).trans (delta.kinds kind)
  untouched ref absent := by
    rw [SortedMap.get?_insert, Write.ref_change] at absent
    rw [Write.row?_apply fits]
    split at absent
    · cases absent
    · rename_i other
      rw [if_neg other]
      exact delta.untouched ref absent
  shown ref change found := by
    rw [SortedMap.get?_insert] at found
    split at found
    · rename_i same
      cases found
      exact ⟨same.symm, Write.shows_apply fits now⟩
    · rename_i other
      obtain ⟨rfl, shown⟩ := delta.shown ref change found
      exact ⟨rfl, shown.apply fits now (Write.ref_change write ▸ other)⟩
  tabled ref change found := by
    rw [SortedMap.get?_insert] at found
    split at found
    · rename_i same
      obtain ⟨table, held⟩ := fits.table
      rw [← delta.kinds, same, Write.ref_change, held]
      rfl
    · exact delta.tabled ref change found
  buried ref buried := write.buried_apply now (delta.buried ref buried)

/-- Two frames that follow each other, laid over each other, tell the difference from the first
content to the last. -/
theorem trans {later : Frame} (first : Delta before frame middle)
    (second : Delta middle later after) : Delta before (frame.insertAll later) after where
  kinds kind := (second.kinds kind).trans (first.kinds kind)
  untouched ref absent := by
    rw [SortedMap.get?_insertAll, Option.or_eq_none_iff] at absent
    exact (second.untouched ref absent.1).trans (first.untouched ref absent.2)
  shown ref change found := by
    rw [SortedMap.get?_insertAll, Option.or_eq_some_iff] at found
    rcases found with found | ⟨absent, found⟩
    · exact second.shown ref change found
    · obtain ⟨rfl, shown⟩ := first.shown ref change found
      exact ⟨rfl, shown.of_row (second.untouched _ absent) (second.buried _)⟩
  tabled ref change found := by
    rw [SortedMap.get?_insertAll, Option.or_eq_some_iff] at found
    rcases found with found | ⟨_, found⟩
    · rw [← first.kinds]
      exact second.tabled ref change found
    · exact first.tabled ref change found
  buried ref buried := second.buried ref (first.buried ref buried)

end Delta

/-! ## Along a run -/

/-- The deed is not the recording of a change that no write has made. -/
def Deed.Unforced (deed : Deed) : Prop := ∀ change, deed ≠ .recorded change

/-- The move is not the recording of a change that no write has made. -/
def Move.Unforced : Move → Prop
  | .perform (.record _) => False
  | _ => True

theorem Operation.deed_unforced {α : Type} {operation : Operation α}
    (unforced : (Move.perform operation).Unforced) (answer : α) :
    (operation.deed answer).Unforced := by
  intro change
  cases operation with
  | record change => exact unforced.elim
  | insert kind body | update kind body => cases answer <;> exact nofun
  | delete kind id => rcases answer with _ | (_ | _) <;> exact nofun
  | _ => exact nofun

namespace Handle

theorem deed_unforced (handle : Handle) {move : Move} (unforced : move.Unforced) :
    (handle.deed move).Unforced := by
  cases move with
  | perform operation => exact Operation.deed_unforced unforced _
  | openScope =>
      intro change equal
      cases equal
  | keepScope | discardScope =>
      intro change equal
      rw [deed] at equal
      split at equal
      · cases equal
      · cases equal

theorem history_unforced (handle : Handle) {moves : List Move}
    (unforced : ∀ move ∈ moves, move.Unforced) :
    ∀ deed ∈ handle.history moves, deed.Unforced := by
  induction moves generalizing handle with
  | nil => exact List.forall_mem_nil _
  | cons first rest ih =>
      rw [List.forall_mem_cons] at unforced
      rw [history_cons, List.forall_mem_cons]
      exact ⟨handle.deed_unforced unforced.1, ih _ unforced.2⟩

end Handle

namespace Work

theorem RecordsNothing.of_call {α β : Type} {operation : Operation β} {next : β → Work α}
    (nothing : (call operation next).RecordsNothing) :
    (Move.perform operation).Unforced ∧ ∀ answer, (next answer).RecordsNothing := by
  cases operation with
  | record change => exact nothing.elim
  | _ => exact ⟨trivial, nothing⟩

/-- No move of such work is the recording of a change that no write has made. -/
theorem RecordsNothing.unforced : ∀ {α : Type} {work : Work α}, work.RecordsNothing →
    ∀ (handle : Handle), ∀ move ∈ work.moves handle, move.Unforced
  | _, .done _, _, _ => List.forall_mem_nil _
  | _, .call operation next, nothing, handle => by
      obtain ⟨unforced, later⟩ := nothing.of_call
      rw [moves, List.forall_mem_cons]
      exact ⟨unforced, (later _).unforced _⟩
  | _, .scope body ending next, nothing, handle => by
      have rests := fun closing => (nothing.2 (body.run handle.openScope).1 closing).unforced
      rw [moves, List.forall_mem_cons]
      refine ⟨trivial, List.forall_mem_append.2 ⟨nothing.1.unforced _, ?_⟩⟩
      cases ending (body.run handle.openScope).1 with
      | keep => exact List.forall_mem_cons.2 ⟨trivial, rests _ _⟩
      | discard | unwind => exact List.forall_mem_cons.2 ⟨trivial, rests _ _⟩

end Work

namespace Handle

/-- The frames of a handle tell, layer by layer, what the transaction has done since it began on
a content. -/
def PreciseSince (first : Database) (handle : Handle) : Prop :=
  handle.tracked = true → Layered Delta handle.frames (handle.saved ++ [first]) handle.content

theorem preciseSince_start (content : Database) (tracked : Bool) (ids : IdSource) (now : Int) :
    (start content tracked ids now).PreciseSince content := by
  intro recorded
  cases tracked with
  | true => exact .cons (.refl content) (.nil content)
  | false => cases recorded

variable {first : Database} {before after : Handle}

/-- **A deed that forces nothing leaves the frames precise.** -/
theorem Does.preciseSince {deed : Deed} (does : Does deed before after)
    (lockstep : before.Lockstep) (unforced : deed.Unforced)
    (precise : before.PreciseSince first) : after.PreciseSince first := by
  cases does with
  | quiet ids log => exact precise
  | recorded _ change => exact absurd rfl (unforced change)
  | @wrote _ write fits =>
      intro recorded
      rw [tracked, changes_wrote, Option.isSome_map] at recorded
      have layers := precise recorded
      obtain ⟨top, below, frames⟩ := layers.exists_record (List.concat_ne_nil _ _)
      rw [frames] at layers
      rw [frames_wrote, frames, saved_wrote, content_wrote]
      exact layers.step fun saved delta => delta.wrote fits before.now
  | opened =>
      intro recorded
      have layers := precise (Option.isSome_map.symm.trans recorded)
      obtain ⟨top, below, frames⟩ := layers.exists_record (List.concat_ne_nil _ _)
      rw [frames] at layers
      rw [frames_openScope, frames, saved_openScope, content_openScope]
      exact layers.opened (.refl before.content)
  | kept opened =>
      intro recorded
      have layers := precise (Option.isSome_map.symm.trans recorded)
      rw [saved_of_dropped lockstep opened, List.cons_append] at layers
      obtain ⟨top, parent, below, frames⟩ := layers.exists_records (List.concat_ne_nil _ _)
      rw [frames] at layers
      rw [frames_kept, frames, saved_kept, saved_of_dropped lockstep opened]
      exact layers.kept fun _ => Delta.trans
  | discarded opened =>
      intro recorded
      have layers := precise (Option.isSome_map.symm.trans recorded)
      rw [saved_of_dropped lockstep opened, List.cons_append] at layers
      obtain ⟨top, parent, below, frames⟩ := layers.exists_records (List.concat_ne_nil _ _)
      rw [frames] at layers
      rw [frames_dropped, frames]
      exact layers.dropped

/-- **The frames of every handle that a run reaches are precise**, unless a change is recorded that
no write has made. -/
theorem preciseSince_play {handle : Handle} (lockstep : handle.Lockstep)
    (precise : handle.PreciseSince first) (moves : List Move)
    (unforced : ∀ move ∈ moves, move.Unforced) : (handle.play moves).PreciseSince first := by
  have now := lockstep.play_induction
    (motive := fun past handle => (∀ deed ∈ past, deed.Unforced) → handle.PreciseSince first)
    (fun lockstep does precise unforced =>
      does.preciseSince lockstep (unforced _ (List.mem_concat_self))
        (precise fun deed member => unforced deed (List.mem_append_left _ member)))
    (fun _ => precise) moves
  exact now (handle.history_unforced unforced)

end Handle

/-- All frames laid over each other tell the difference from the outermost content to the present
one. -/
theorem Layered.delta_overlay {first now : Database} {frames : List Frame}
    {contents : List Database} (layers : Layered Delta frames (contents ++ [first]) now) :
    Delta first (Frames.overlay frames) now := by
  induction contents generalizing frames now with
  | nil =>
      cases layers with
      | cons inner outer =>
          cases outer
          exact (Delta.refl first).trans inner
  | cons saved contents ih =>
      cases layers with
      | cons inner outer => exact (ih outer).trans inner

/-- The pending changes of a precise handle are the difference from the first content. -/
theorem Handle.PreciseSince.delta {first : Database} {handle : Handle}
    (precise : handle.PreciseSince first) (tracked : handle.tracked = true) :
    Delta first handle.allPending handle.content := by
  rw [Handle.allPending_eq]
  exact (precise tracked).delta_overlay

/-! ## Replaying changes -/

namespace Database

/-- The database after a change was made to its tables. -/
def replay (database : Database) (change : Change) : Database :=
  match database.tables.get? change.ref.kind with
  | some table =>
      database.withTable change.ref.kind
        (match change.record with
        | some record => table.insert change.ref.id record.row
        | none => table.erase change.ref.id)
  | none => database

/-- Tables with the same rows are the same. -/
theorem tables_eq_of_rows {first second : Database}
    (kinds : ∀ kind, (first.tables.get? kind).isSome = (second.tables.get? kind).isSome)
    (rows : ∀ ref, first.row? ref = second.row? ref) : first.tables = second.tables := by
  refine SortedMap.ext_get? fun kind => ?_
  have same := kinds kind
  cases held : first.tables.get? kind with
  | none =>
      rw [held] at same
      exact (Option.not_isSome_iff_eq_none.1 (same ▸ Bool.false_ne_true)).symm
  | some table =>
      rw [held] at same
      obtain ⟨other, found⟩ := Option.isSome_iff_exists.1 same.symm
      rw [found]
      refine congrArg some (SortedMap.ext_get? fun id => ?_)
      have here : first.row? ⟨kind, id⟩ = table.get? id := row?_of_table held
      have there : second.row? ⟨kind, id⟩ = other.get? id := row?_of_table found
      exact here.symm.trans ((rows ⟨kind, id⟩).trans there)

/-- A change is made to one row. -/
theorem row?_replay {database : Database} {change : Change}
    (tabled : (database.tables.get? change.ref.kind).isSome) (ref : Ref) :
    (database.replay change).row? ref =
      if ref = change.ref then change.record.map Record.row else database.row? ref := by
  obtain ⟨table, found⟩ := Option.isSome_iff_exists.1 tabled
  rw [replay, found]
  cases change.record with
  | some record =>
      exact row?_change found (SortedMap.get?_insert table change.ref.id · record.row) ref
  | none => exact row?_change found (SortedMap.get?_erase table change.ref.id) ref

theorem isSome_table_replay (database : Database) (change : Change) (kind : Kind) :
    ((database.replay change).tables.get? kind).isSome = (database.tables.get? kind).isSome := by
  rw [replay]
  split
  · rename_i table found
    rw [table_withTable]
    by_cases same : kind = change.ref.kind
    · rw [if_pos same, same, found]
      rfl
    · rw [if_neg same]
  · rfl

theorem isSome_table_replayAll (changes : List Change) (database : Database) (kind : Kind) :
    ((changes.foldl replay database).tables.get? kind).isSome =
      (database.tables.get? kind).isSome := by
  induction changes generalizing database with
  | nil => rfl
  | cons change rest ih => exact (ih _).trans (isSome_table_replay database change kind)

/-- Making the changes of a frame gives each object that it names the row that it names. -/
theorem row?_replayAll {entries : List (Ref × Change)} (increasing : Entries.Increasing entries)
    (database : Database)
    (keyed : ∀ entry ∈ entries, entry.2.ref = entry.1)
    (tabled : ∀ entry ∈ entries, (database.tables.get? entry.1.kind).isSome) (ref : Ref) :
    ((entries.map (·.2)).foldl replay database).row? ref =
      match Entries.lookup ref entries with
      | some change => change.record.map Record.row
      | none => database.row? ref := by
  induction entries generalizing database with
  | nil => rfl
  | cons entry rest ih =>
      obtain ⟨key, change⟩ := entry
      have same : change.ref = key := keyed _ List.mem_cons_self
      have inTable := tabled _ List.mem_cons_self
      have later := ih (List.pairwise_cons.1 increasing).2 (database.replay change)
        (fun entry member => keyed entry (List.mem_cons_of_mem _ member)) fun entry member => by
          rw [isSome_table_replay]
          exact tabled entry (List.mem_cons_of_mem _ member)
      rw [List.map_cons, List.foldl_cons, later, row?_replay (same ▸ inTable), same,
        Entries.lookup_cons]
      by_cases here : ref = key
      · subst here
        rw [if_pos rfl, if_pos rfl, Entries.lookup_rest_of_increasing increasing]
      · rw [if_neg here, if_neg here]

end Database

/-- **Making the changes of a precise frame gives the tables that it leads to.** -/
theorem Delta.tables_replay {before after : Database} {frame : Frame}
    (delta : Delta before frame after) :
    after.tables = (frame.values.foldl Database.replay before).tables := by
  have named {ref : Ref} {change : Change} (member : (ref, change) ∈ frame.entries) :
      frame.get? ref = some change := (frame.get?_eq_some_iff ref change).2 member
  refine Database.tables_eq_of_rows (fun kind => ?_) fun ref => ?_
  · rw [Database.isSome_table_replayAll, delta.kinds]
  · rw [SortedMap.values, Database.row?_replayAll frame.increasing before
      (fun entry member => (delta.shown _ _ (named member)).1)
      (fun entry member => delta.tabled _ _ (named member))]
    cases found : frame.get? ref with
    | none =>
        have absent : Entries.lookup ref frame.entries = none := found
        rw [absent]
        exact delta.untouched ref found
    | some change =>
        have present : Entries.lookup ref frame.entries = some change := found
        rw [present]
        obtain ⟨rfl, shown⟩ := delta.shown ref change found
        exact shown.row?_eq

/-! ## Transactions -/

namespace Frames

/-- Keeping a frame does not change what all of them tell. -/
theorem overlay_kept (frames : List Frame) : overlay (kept frames) = overlay frames := by
  match frames with
  | [] | [_] => rfl
  | top :: parent :: below =>
      refine SortedMap.ext_get? fun ref => ?_
      rw [kept, overlay, overlay, overlay, SortedMap.get?_insertAll, SortedMap.get?_insertAll,
        SortedMap.get?_insertAll, SortedMap.get?_insertAll, Option.or_assoc]

/-- A new frame tells nothing. -/
theorem overlay_opened (frames : List Frame) : overlay (opened frames) = overlay frames := by
  cases frames with
  | nil => rfl
  | cons top below => exact SortedMap.insertAll_empty _

/-- What is recorded covers what was told of its object. -/
theorem get?_overlay_record {frames : List Frame} (some : frames ≠ []) (change : Change)
    (ref : Ref) : (overlay (record change frames)).get? ref =
      if ref = change.ref then .some change else (overlay frames).get? ref := by
  cases frames with
  | nil => exact absurd rfl some
  | cons top below =>
      rw [record, overlay, overlay, SortedMap.get?_insertAll, SortedMap.get?_insertAll,
        SortedMap.get?_insert]
      split <;> rfl

end Frames

theorem Handle.finish_eq (handle : Handle) : handle.finish = handle.allPending.values := by
  rw [finish, allPending]
  cases handle.changes with
  | none => rfl
  | some stack => exact stack.drain_eq

theorem Handle.allPending_kept (handle : Handle) : handle.kept.allPending = handle.allPending := by
  rw [allPending_eq, allPending_eq, frames_kept, Frames.overlay_kept]

theorem Handle.allPending_openScope (handle : Handle) :
    handle.openScope.allPending = handle.allPending := by
  rw [allPending_eq, allPending_eq, frames_openScope, Frames.overlay_opened]

/-- **A write is pending where changes are recorded.** -/
theorem Handle.get?_allPending_wrote (handle : Handle) (write : Write) (ref : Ref) :
    (handle.wrote write).allPending.get? ref =
      if handle.tracked = true ∧ ref = write.ref then some write.change
      else handle.allPending.get? ref := by
  rw [allPending_eq, allPending_eq, frames_wrote]
  cases tracked : handle.tracked with
  | true =>
      have some : handle.frames ≠ [] := fun none => by
        rw [frames_eq_nil.1 none] at tracked
        cases tracked
      rw [Frames.get?_overlay_record some, Write.ref_change]
      simp only [true_and]
  | false =>
      rw [frames_eq_nil.2 tracked, if_neg fun both => Bool.false_ne_true both.1]
      rfl

namespace Store

variable {α : Type}

/-- A transaction that is committed has the pending changes and the content of the last point of
its work. -/
theorem attempt_of_committed (store : Store) (tracked : Bool) (work : Work α) (ending : α → Ending)
    (committed : (store.attempt tracked work ending).1.Committed ending) :
    let last :=
      (work.run (Handle.start store.database tracked store.ids store.now).openScope).2
    (∃ value, (store.attempt tracked work ending).1 = .ended value (.ok last.allPending.values)) ∧
      (store.attempt tracked work ending).2.database = last.content := by
  intro last
  have lockstep := Handle.lockstep_start store.database tracked store.ids store.now
  have kept : last.kept.finish = last.allPending.values := by
    rw [Handle.finish_eq, Handle.allPending_kept]
  revert committed
  rw [attempt]
  by_cases busy : store.contention = .writing
  · rw [if_pos busy]
    exact False.elim
  · rw [if_neg busy]
    dsimp only
    rw [lockstep.run_scope work ending]
    cases kind : ending (work.run _).1 with
    | keep =>
        dsimp only [commit, absorb]
        by_cases read : store.contention = .reading
        · rw [if_pos read]
          rintro ⟨_, _, failed⟩
          cases failed
        · rw [if_neg read]
          exact fun _ =>
            ⟨⟨_, congrArg (fun changes => Outcome.ended _ (.ok changes)) kept⟩, rfl⟩
    | discard | unwind =>
        rintro ⟨keeps, _⟩
        rw [kind] at keeps
        cases keeps

theorem runTracked_of_committed {store : Store} {work : Work α} {ending : α → Ending}
    (committed : (store.runTracked work ending).1.Committed ending) :
    let last := (work.run (Handle.start store.database true store.ids store.now).openScope).2
    (∃ value, (store.runTracked work ending).1 = .ended value (.ok last.allPending.values)) ∧
      (store.runTracked work ending).2.database = last.content := by
  rw [runTracked_eq] at committed ⊢
  exact store.attempt_of_committed true work ending committed

end Store

/-- **The pending changes are exactly the difference.** At every point of a tracked transaction
whose work records nothing by hand, an object without a pending change has the row that it had
when the transaction began, and one with a pending change has what that change says. When the
transaction is committed, what it gives are the pending changes of its last point, and making
them to the old tables gives the new ones. -/
theorem pending_changes_are_the_difference {α : Type} (store : Store) (work : Work α)
    (ending : α → Ending) (nothing : work.RecordsNothing) :
    let inside := (Handle.start store.database true store.ids store.now).openScope
    let last := (work.run inside).2
    (∀ past rest, work.moves inside = past ++ rest → ∀ ref,
      let now := inside.play past
      (now.allPending.get? ref = none → now.content.row? ref = store.database.row? ref) ∧
        ∀ change, now.allPending.get? ref = some change →
          change.ref = ref ∧ now.content.Shows change) ∧
    ((store.runTracked work ending).1.Committed ending →
      (∃ value,
        (store.runTracked work ending).1 = .ended value (.ok last.allPending.values)) ∧
      (store.runTracked work ending).2.database.tables =
        (last.allPending.values.foldl Database.replay store.database).tables) := by
  intro inside last
  have start := Handle.lockstep_start store.database true store.ids store.now
  have lockstep : inside.Lockstep := Handle.Does.lockstep (.opened _) start
  have precise : inside.PreciseSince store.database :=
    Handle.Does.preciseSince (.opened _) start (fun _ equal => by cases equal)
      (Handle.preciseSince_start store.database true store.ids store.now)
  have delta {past rest : List Move} (split : work.moves inside = past ++ rest) :
      Delta store.database (inside.play past).allPending (inside.play past).content := by
    have unforced := nothing.unforced inside
    rw [split, List.forall_mem_append] at unforced
    have now := Handle.preciseSince_play lockstep precise past unforced.1
    exact now.delta (lockstep.tracked_play past)
  refine ⟨fun past rest split ref => ?_, fun committed => ?_⟩
  · exact ⟨(delta split).untouched ref, (delta split).shown ref⟩
  · obtain ⟨given, content⟩ := Store.runTracked_of_committed committed
    refine ⟨given, ?_⟩
    rw [content]
    have whole := delta (List.append_nil (work.moves inside)).symm
    rw [← work.run_eq_play] at whole
    exact whole.tables_replay

/-- A tab is stored, and then deleted in a scope that is discarded: at the end its row is as its
pending change says. -/
theorem kept_tab_is_pending :
    let work : Work Unit := .call (.insert .tab (Tab.new "t" "kept")) fun _ =>
      .scope (.ask (.delete .tab "t")) (fun _ => .discard) fun _ _ => .done ()
    let inside := (Handle.start Store.vacant.database true default 0).openScope
    let last := inside.play (work.moves inside)
    work.RecordsNothing ∧ ∀ ref change, last.allPending.get? ref = some change →
      change.ref = ref ∧ last.content.Shows change := by
  intro work inside last
  have nothing : work.RecordsNothing := fun _ => ⟨fun _ => trivial, fun _ _ => trivial⟩
  have precise := (pending_changes_are_the_difference .vacant work (fun _ => .keep) nothing).1
    (work.moves inside) [] (List.append_nil _).symm
  exact ⟨nothing, fun ref => (precise ref).2⟩

/-! ## Requests record nothing by hand -/

/-- Work that may fail records nothing by hand. -/
def Transaction.RecordsNothing {α : Type} (work : Transaction α) : Prop :=
  Work.RecordsNothing work.run

/-- **Nothing that can be asked of the graph records a change by hand.** -/
theorem Request.recordsNothing (request : Request) : request.answer.RecordsNothing :=
  (request.avoids (by decide)).recordsNothing

end ScopedStore
