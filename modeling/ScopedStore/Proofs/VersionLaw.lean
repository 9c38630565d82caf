import ScopedStore.Proofs.Runs
import ScopedStore.Proofs.Survivors
import ScopedStore.Proofs.UndoneValues

/-!
# Versions count updates

The version of an object is taken from the value of its caller, and led back by what the handle
remembers, and never computed from the row. Still it counts: it is 1 and one more for every update
since the object was last stored, of the writes that are in effect. This is so because each write
in effect was made to what the earlier ones had left (`Becomes`), and an update fits only a row
with the version below its own.

What a transaction hands over when it is committed are its frames, and not its writes. A frame
names of an object the last change that was recorded in its scope, so it tells the last write on
the page of that scope, unless that change was recorded by hand (`Frame.Tells`). So the version
in a record that is handed over is the version of the row at that time, and between two such
records of an object that stays there is an update of it in effect.
-/

set_option autoImplicit false

namespace ScopedStore

/-! ## The version of a row -/

/-- A write that records a record as the new state of its object leaves it in the row. -/
theorem Write.eq_of_change {write : Write} {record : Record} (same : write.change = .updated record) :
    write = .inserted record ∨ write = .updated record := by
  have records := congrArg Change.record same
  cases write with
  | inserted other => exact .inl (congrArg _ (Option.some.inj records))
  | updated other => exact .inr (congrArg _ (Option.some.inj records))
  | deleted ref => cases records

/-- The number of updates behind the last insertion, among the writes of an object of which the
last one is first. -/
def updatesSinceInsertion : List Write → Nat
  | [] | .inserted _ :: _ => 0
  | .updated _ :: earlier => updatesSinceInsertion earlier + 1
  | .deleted _ :: earlier => updatesSinceInsertion earlier

/-- **The version of a row counts the updates since the object was stored.** -/
theorem Becomes.version_eq {writes : List Write} {now : Database}
    (becomes : Becomes .vacant writes now) {ref : Ref} {row : Row}
    (found : now.row? ref = some row) :
    (∃ record, .inserted record ∈ writesOf ref writes) ∧
      row.version = 1 + updatesSinceInsertion (writesOf ref writes) := by
  induction becomes generalizing row with
  | nil =>
      rw [Database.row?_vacant] at found
      cases found
  | @cons write earlier middle rest fits time ih =>
      rw [Write.row?_apply fits] at found
      by_cases here : write.ref = ref
      · rw [if_pos here.symm] at found
        rw [writesOf_cons_of_eq here]
        cases fits with
        | @inserted record table held free first =>
            cases found
            exact ⟨⟨record, List.mem_cons_self⟩, first⟩
        | @updated record old held next =>
            cases found
            have address : record.ref = ref := here
            obtain ⟨⟨stored, member⟩, count⟩ := ih (address ▸ held)
            refine ⟨⟨stored, List.mem_cons_of_mem _ member⟩, ?_⟩
            have version : record.row.version = record.version := rfl
            rw [version, next, count, updatesSinceInsertion]
            omega
        | deleted held graves => cases found
      · rw [if_neg fun same => here same.symm] at found
        rw [writesOf_cons_of_ne here]
        exact ih found

/-! ## Frames and pages -/

/-- What a frame says of an object is the last write of it on a page, unless it was recorded by
hand; what it does not name is not written there. -/
structure Frame.Tells (byHand : Change → Prop) (frame : Frame) (page : List Write) : Prop where
  named : ∀ ref change, frame.get? ref = some change →
    byHand change ∨ (writesOf ref page).head?.map Write.change = some change
  unnamed : ∀ ref, frame.get? ref = none → writesOf ref page = []

namespace Frame.Tells

variable {byHand : Change → Prop} {frame inner : Frame} {page later : List Write}

theorem empty : Frame.Tells byHand ∅ [] where
  named _ _ found := (nomatch found)
  unnamed _ _ := rfl

theorem mono {other : Change → Prop} (tells : frame.Tells byHand page)
    (more : ∀ change, byHand change → other change) : frame.Tells other page :=
  ⟨fun ref change found => (tells.named ref change found).imp_left (more change), tells.unnamed⟩

/-- A change that is recorded by hand covers what was recorded of the object before. -/
theorem recorded (tells : frame.Tells byHand page) {change : Change} (hand : byHand change) :
    Frame.Tells byHand (frame.insert change.ref change) page := by
  refine ⟨fun ref other found => ?_, fun ref absent => ?_⟩
  · rw [SortedMap.get?_insert] at found
    split at found
    · cases found
      exact .inl hand
    · exact tells.named ref other found
  · rw [SortedMap.get?_insert] at absent
    split at absent
    · cases absent
    · exact tells.unnamed ref absent

/-- A write is recorded as it is put on the page. -/
theorem wrote (tells : frame.Tells byHand page) (write : Write) :
    Frame.Tells byHand (frame.insert write.change.ref write.change) (write :: page) := by
  refine ⟨fun ref change found => ?_, fun ref absent => ?_⟩
  · rw [SortedMap.get?_insert, Write.ref_change] at found
    split at found
    · rename_i here
      cases found
      rw [writesOf_cons_of_eq here.symm]
      exact .inr rfl
    · rename_i other
      rw [writesOf_cons_of_ne fun same => other same.symm]
      exact tells.named ref change found
  · rw [SortedMap.get?_insert, Write.ref_change] at absent
    split at absent
    · cases absent
    · rename_i other
      rw [writesOf_cons_of_ne fun same => other same.symm]
      exact tells.unnamed ref absent

/-- A frame that is laid over another one tells what is on both pages. -/
theorem followedBy (tells : frame.Tells byHand page) (tellsInner : inner.Tells byHand later) :
    Frame.Tells byHand (frame.insertAll inner) (later ++ page) := by
  refine ⟨fun ref change found => ?_, fun ref absent => ?_⟩
  · rw [SortedMap.get?_insertAll] at found
    rw [writesOf_append]
    rcases Option.or_eq_some_iff.1 found with found | ⟨absent, found⟩
    · refine (tellsInner.named ref change found).imp_right fun last => ?_
      obtain ⟨write, first, same⟩ := Option.map_eq_some_iff.1 last
      rw [List.head?_append, first]
      exact congrArg some same
    · rw [tellsInner.unnamed ref absent]
      exact tells.named ref change found
  · rw [SortedMap.get?_insertAll, Option.or_eq_none_iff] at absent
    rw [writesOf_append, tellsInner.unnamed ref absent.1, tells.unnamed ref absent.2]
    rfl

/-- All frames laid over each other tell what is on all pages. -/
theorem overlay {frames : List Frame} {pages : List (List Write)}
    (tells : List.Forall₂ (Frame.Tells byHand) frames pages) :
    (Frames.overlay frames).Tells byHand pages.flatten := by
  induction tells with
  | nil => exact .empty
  | cons top _ ih => exact ih.followedBy top

end Frame.Tells

namespace Handle

/-- The frames of a handle tell the writes on the pages of its journal, scope by scope; where
changes are not recorded there are none. -/
def FramesTell (handle : Handle) (past : List Deed) : Prop :=
  handle.tracked = true → List.Forall₂ (Frame.Tells fun change => .recorded change ∈ past)
    handle.frames (Journal.blank.afterAll past).pages

theorem framesTell_start (content : Database) (tracked : Bool) (ids : IdSource) (now : Int) :
    (start content tracked ids now).FramesTell [] := by
  intro recorded
  cases tracked with
  | true => exact .cons .empty .nil
  | false => cases recorded

/-- A tracked handle has a frame for each open scope and one more. -/
theorem Lockstep.length_frames {handle : Handle} (lockstep : handle.Lockstep)
    (tracked : handle.tracked = true) : handle.frames.length = handle.depth + 1 := by
  obtain ⟨stack, held⟩ := Option.isSome_iff_exists.1 tracked
  rw [Handle.frames, held, Option.map_some, Option.getD_some, ChangeStack.frames,
    List.length_append, lockstep.frames stack held]
  rfl

/-- **What a deed does to the frames it does to the pages.** -/
theorem Does.framesTell {deed : Deed} {before after : Handle} {past : List Deed}
    (does : Does deed before after) (lockstep : before.Lockstep)
    (tell : before.FramesTell past) : after.FramesTell (past ++ [deed]) := by
  intro recorded
  have tracked : before.tracked = true := does.tracked_eq ▸ recorded
  have length := lockstep.length_frames tracked
  rw [Journal.afterAll_concat]
  have now : List.Forall₂ (Frame.Tells fun change => .recorded change ∈ past ++ [deed])
      before.frames (Journal.blank.afterAll past).pages :=
    (tell tracked).imp fun _ _ tells => tells.mono fun _ => List.mem_append_left _
  generalize Journal.blank.afterAll past = journal at now
  obtain ⟨pages, entries⟩ := journal
  dsimp only at now
  cases does with
  | quiet ids log => exact now
  | recorded _ change =>
      rw [frames_record]
      generalize before.frames = frames at now ⊢
      cases now with
      | nil => exact .nil
      | cons top below => exact .cons (top.recorded List.mem_concat_self) below
  | @wrote _ write fits =>
      rw [frames_wrote]
      generalize before.frames = frames at now ⊢
      cases now with
      | nil => exact .nil
      | cons top below => exact .cons (top.wrote write) below
  | opened =>
      rw [frames_openScope]
      generalize before.frames = frames at length now ⊢
      cases now with
      | nil => nomatch length
      | cons top below => exact .cons .empty (.cons top below)
  | kept opened =>
      rw [frames_kept]
      generalize before.frames = frames at now ⊢
      cases now with
      | nil => exact .nil
      | cons top below =>
          cases below with
          | nil => exact .cons top .nil
          | cons parent below => exact .cons (parent.followedBy top) below
  | discarded opened =>
      rw [frames_dropped]
      generalize before.frames = frames at length now ⊢
      -- The scope that is discarded has a frame, so there are two of them.
      cases now with
      | nil => nomatch length
      | cons top below =>
          cases below with
          | nil => exact absurd (Nat.succ.inj length).symm (Nat.ne_of_gt opened)
          | cons parent below => exact .cons parent below

/-- **The frames of a transaction tell its writes.** -/
theorem Lockstep.framesTell_play {handle : Handle} (lockstep : handle.Lockstep)
    (tell : handle.FramesTell []) (moves : List Move) :
    (handle.play moves).FramesTell (handle.history moves) :=
  lockstep.play_induction (motive := fun past handle => handle.FramesTell past)
    (fun lockstep does tell => does.framesTell lockstep tell) tell moves

end Handle

/-! ## What is handed over -/

namespace Journal

/-- Deeds of one transaction. -/
theorem through_deeds (journal : Journal) (deeds : List Deed) :
    journal.through (deeds.map .did) = journal.afterAll deeds := by
  rw [through, afterAll, List.foldl_map]
  rfl

end Journal

theorem Handle.story_moves (handle : Handle) (moves : List Move) :
    handle.story (moves.map .move) = (handle.history moves).map .did := by
  induction moves generalizing handle with
  | nil => rfl
  | cons first rest ih => exact congrArg (_ :: ·) (ih (handle.move first))

namespace Store

variable {α : Type}

/-- The moves of a transaction up to the last point of its work. -/
def moves (store : Store) (tracked : Bool) (work : Work α) : List Move :=
  .openScope :: work.moves (Handle.start store.database tracked store.ids store.now).openScope

/-- What a transaction has done up to the last point of its work. -/
def deeds (store : Store) (tracked : Bool) (work : Work α) : List Deed :=
  (Handle.start store.database tracked store.ids store.now).history (store.moves tracked work)

/-- The transaction as a part of a run, up to the last point of its work. -/
def course (store : Store) (tracked : Bool) (work : Work α) : List Act :=
  .transact tracked store.ids store.now :: (store.moves tracked work).map .move

variable {store : Store} {work : Work α} {ending : α → Ending} {record : Record}

theorem story_course {handle : Handle} (outside : handle.depth = 0)
    (content : handle.content = store.database) (tracked : Bool) :
    handle.story (store.course tracked work) = .began :: (store.deeds tracked work).map .did := by
  rw [course, Handle.story_cons, Handle.happening, Handle.act, if_pos outside, if_pos outside,
    content, Handle.story_moves]
  rfl

/-- The writes of a transaction that stay in effect lead to its content. -/
theorem becomes_play (store : Store) (tracked : Bool) (work : Work α) :
    Becomes store.database (Journal.blank.afterAll (store.deeds tracked work)).inEffect
      ((Handle.start store.database tracked store.ids store.now).play
        (store.moves tracked work)).content := by
  have lives := (Handle.lives_start store.database tracked store.ids store.now).live
    ((store.moves tracked work).map .move)
  rw [Handle.live_moves, Handle.story_moves, Journal.through_deeds] at lives
  exact lives.becomes

/-- **A record that is handed over is the last write of its object**, unless it was recorded by
hand. -/
theorem last_write_of_handed (handed : .updated record ∈ (store.runTracked work ending).1.changes)
    (written : .recorded (.updated record) ∉ store.deeds true work) :
    ∃ write earlier, writesOf record.ref (Journal.blank.afterAll (store.deeds true work)).inEffect =
        write :: earlier ∧ write.change = .updated record ∧
      (store.runTracked work ending).2.database =
        ((Handle.start store.database true store.ids store.now).play
          (store.moves true work)).content := by
  have committed : (store.runTracked work ending).1.Committed ending := by
    refine Classical.byContradiction fun failed => ?_
    rw [runTracked_eq_attempt failed] at handed failed
    rw [changes_of_failed failed] at handed
    cases handed
  obtain ⟨⟨value, outcome⟩, content⟩ := runTracked_of_committed committed
  rw [outcome] at handed
  rw [work.run_eq_play] at handed content
  have lockstep := Handle.lockstep_start store.database true store.ids store.now
  have tell := lockstep.framesTell_play (Handle.framesTell_start _ _ _ _) (store.moves true work)
    (lockstep.tracked_play _)
  have pending := Handle.get?_of_mem_values_play store.database true store.ids store.now
    (store.moves true work) handed
  rw [Handle.allPending_eq] at pending
  rcases (Frame.Tells.overlay tell).named _ _ pending with hand | last
  · exact absurd hand written
  · obtain ⟨write, first, same⟩ := Option.map_eq_some_iff.1 last
    obtain ⟨earlier, writes⟩ := List.head?_eq_some_iff.1 first
    exact ⟨write, earlier, writes, same, content⟩

/-- **Versions that are handed over grow.** Between two transactions that hand over a record of the
same object, which is not deleted in between, an update of it stays in effect. -/
theorem version_lt_of_handed {β : Type} {first second : Store} {early : Work α} {late : Work β}
    {earlyEnding : α → Ending} {lateEnding : β → Ending} {older newer : Record}
    (handedOlder : .updated older ∈ (first.runTracked early earlyEnding).1.changes)
    (handedNewer : .updated newer ∈ (second.runTracked late lateEnding).1.changes)
    (writtenOlder : .recorded (.updated older) ∉ first.deeds true early)
    (writtenNewer : .recorded (.updated newer) ∉ second.deeds true late)
    (same : newer.ref = older.ref) {handle : Handle}
    (lives : handle.Lives (first.runTracked early earlyEnding).2.database .blank)
    {between : List Act} (outside : (handle.live between).depth = 0)
    (content : (handle.live between).content = second.database)
    (stays : .deleted older.ref ∉ (Journal.blank.through
      (handle.story (between ++ second.course true late))).inEffect) :
    older.version < newer.version := by
  obtain ⟨write, earlier, writes, shown, left⟩ := last_write_of_handed handedOlder writtenOlder
  obtain ⟨last, before, later, shownLater, _⟩ := last_write_of_handed handedNewer writtenNewer
  have leaves {write : Write} {record : Record} (shown : write.change = .updated record) :
      write.row? = some record.row := by
    rcases Write.eq_of_change shown with rfl | rfl <;> rfl
  -- The row of the older record is there when the run in between begins.
  have rowThen : (first.runTracked early earlyEnding).2.database.row? older.ref =
      some older.row := by
    rw [left, (first.becomes_play true early).row?_eq, writes]
    exact leaves shown
  -- The last write of the later transaction is the last one of all that is in effect.
  obtain ⟨rest, inEffect⟩ : ∃ rest, (Journal.blank.through
      (handle.story (between ++ second.course true late))).inEffect =
        (Journal.blank.afterAll (second.deeds true late)).inEffect ++ rest := by
    have begun : Journal.Extends _ ((Journal.blank.through (handle.story between)).next .began)
        .blank := Journal.extends_blank (List.cons_ne_nil _ _)
    obtain ⟨rest, split, _⟩ := (begun.through ((second.deeds true late).map .did)).rest
    refine ⟨rest, ?_⟩
    rw [Handle.story_append, Journal.through_append, story_course outside content,
      ← Journal.through_deeds Journal.blank]
    exact split
  have becomes := (lives.live (between ++ second.course true late)).becomes
  have all : writesOf older.ref (Journal.blank.through
      (handle.story (between ++ second.course true late))).inEffect =
        last :: (before ++ writesOf older.ref rest) := by
    rw [inEffect, writesOf_append, ← same, later, List.cons_append]
  have rowNow := becomes.row?_eq older.ref
  have versions := becomes.standing_eq stays
  rw [all] at rowNow versions
  rw [Database.standing_of_row rowThen,
    Database.standing_of_row (rowNow.trans (leaves shownLater))] at versions
  have grows : newer.version = older.version + updates (last :: (before ++ _)) := versions
  rcases Write.eq_of_change shownLater with rfl | rfl
  · -- What is there is not stored again.
    have member : .inserted newer ∈ writesOf older.ref (Journal.blank.through
        (handle.story (between ++ second.course true late))).inEffect :=
      all ▸ List.mem_cons_self
    exact absurd same
      ((becomes.not_inserted stays (rowThen ▸ rfl)).2 newer (mem_writesOf.1 member).1)
  · rw [updates] at grows
    omega

end Store

/-! ## The law -/

/-- **The version law.** At every point of a run on a database that transactions alone have
written, whatever of it is undone, the version of a row is 1 and one more for each update since the
last insertion of its object, of the writes that are in effect. A value that was just stored has the
version of its row, and is otherwise as its caller gave it. And of two records of one object that
transactions hand over when they are committed, the later one has the higher version, if the object
was not deleted in between. -/
theorem versions_count_updates :
    (∀ (tracked : Bool) (ids : IdSource) (now : Int) (acts : List Act) (ref : Ref) (row : Row),
      let start := Handle.start .vacant tracked ids now
      let writes := writesOf ref (Journal.blank.through (start.story acts)).inEffect
      (start.live acts).content.row? ref = some row →
        (∃ record, .inserted record ∈ writes) ∧
          row.version = 1 + updatesSinceInsertion writes) ∧
    (∀ (handle : Handle) (kind : Kind) (body stored : kind.Body),
      ∀ operation ∈ [Operation.insert kind body, .update kind body],
        (handle.perform operation).1 = .ok stored →
          stored = kind.withVersion body (kind.version stored) ∧
          ((handle.perform operation).2.content.row? (kind.ref stored)).map Row.version =
            some (kind.version stored)) ∧
    (∀ {α β : Type} (first second : Store) (early : Work α) (earlyEnding : α → Ending)
        (late : Work β) (lateEnding : β → Ending) (older newer : Record)
        (tracked : Bool) (ids : IdSource) (now : Int) (between : List Act),
      let committed := first.runTracked early earlyEnding
      let start := Handle.start committed.2.database tracked ids now
      (start.live between).depth = 0 → (start.live between).content = second.database →
      .updated older ∈ committed.1.changes →
      .updated newer ∈ (second.runTracked late lateEnding).1.changes →
      .recorded (.updated older) ∉ first.deeds true early →
      .recorded (.updated newer) ∉ second.deeds true late →
      newer.ref = older.ref →
      .deleted older.ref ∉ (Journal.blank.through
        (start.story (between ++ second.course true late))).inEffect →
        older.version < newer.version) := by
  refine ⟨?_, ?_, ?_⟩
  · intro tracked ids now acts ref row start writes found
    exact ((Handle.lives_start .vacant tracked ids now).live acts).becomes.version_eq found
  · intro handle kind body stored operation member answer
    have held : (handle.perform operation).2.content.row? (kind.ref stored) =
          some (Record.row ⟨kind, stored⟩) ∧
        ∃ version, stored = kind.withVersion body version := by
      simp only [List.mem_cons, List.not_mem_nil, or_false] at member
      rcases member with rfl | rfl
      · obtain ⟨after, done, _⟩ := Handle.settle_eq_ok answer
        exact ⟨Handle.row?_of_insert answer, 1, (Handle.insert_eq_ok done).1⟩
      · obtain ⟨after, done, _⟩ := Handle.settle_eq_ok answer
        exact ⟨Handle.row?_of_update answer, _, (Handle.update_eq_ok done).1⟩
    obtain ⟨row, version, rfl⟩ := held
    rw [row]
    exact ⟨by rw [Kind.version_withVersion], rfl⟩
  · intro α β first second early earlyEnding late lateEnding older newer tracked ids now between
      committed start outside content handedOlder handedNewer writtenOlder writtenNewer same stays
    exact Store.version_lt_of_handed handedOlder handedNewer writtenOlder writtenNewer same
      (Handle.lives_start _ tracked ids now) outside content stays

/-- A tab is stored by one transaction, and updated by the next one, in a scope that is kept behind
one that is discarded. -/
theorem second_record_has_higher_version :
    let insertion := Work.ask (.insert .tab (Tab.sample 0))
    let update := Work.ask (.update .tab (Tab.sample 1))
    let changed := Work.scope update (fun _ => .discard) fun _ _ =>
      Work.scope update (fun _ => .keep) fun _ _ => .done ()
    let first := Store.vacant.runTracked insertion fun _ => .keep
    let second := first.2.runTracked changed fun _ => .keep
    .updated ⟨.tab, Tab.sample 1⟩ ∈ first.1.changes ∧
      .updated ⟨.tab, Tab.sample 2⟩ ∈ second.1.changes ∧
      Record.version ⟨.tab, Tab.sample 1⟩ < Record.version ⟨.tab, Tab.sample 2⟩ := by
  intro insertion update changed first second
  have older : .updated ⟨.tab, Tab.sample 1⟩ ∈ first.1.changes := by decide +kernel
  have newer : .updated ⟨.tab, Tab.sample 2⟩ ∈ second.1.changes := by decide +kernel
  refine ⟨older, newer, versions_count_updates.2.2 .vacant first.2 insertion (fun _ => .keep)
    changed (fun _ => .keep) _ _ true default 0 [] rfl rfl older newer ?_ ?_ rfl ?_⟩
  · decide +kernel
  · decide +kernel
  · decide +kernel

end ScopedStore
