import ScopedStore.Proofs.Topics
import ScopedStore.Proofs.Transactions

/-!
# Runs side by side

A program that runs on two handles does the same on both as long as it is told the same. What it
is told are the answers of its operations and the outcomes of its scopes (`Work.replies`). An
operation answers alike on handles that show the same objects and have the same memory of undone
versions (`Handle.SameSight.answers`), and then it does the same to both
(`Handle.perform_eq_after`); so a relation between two handles that every deed keeps, and every
scope that is opened and closed on both sides, is kept by whole runs (`Handle.Simulation.run`).

The first use of this is that nothing ever reads the log (`Handle.simulation_log`).
-/

set_option autoImplicit false

namespace ScopedStore

/-! ## Replies -/

/-- Something that a program is told while it runs: the answer of an operation, or what the work in
a scope gave, and whether the scope closed without a failure. -/
inductive Reply : Type 1
  | answer {β : Type} (operation : Operation β) (answer : β)
  | outcome {β : Type} (value : β) (closing : Except StoreError Unit)

namespace Handle

/-- Closes the innermost scope in the way that its work has chosen. -/
def close (handle : Handle) : Ending → Except StoreError Unit × Handle
  | .keep => handle.commitScope
  | .discard | .unwind => (.ok (), handle.abandonScope)

/-- The handle after its innermost scope was closed. -/
def closed (handle : Handle) : Ending → Handle
  | .keep => handle.kept
  | .discard | .unwind => handle.dropped

variable {handle : Handle}

theorem Lockstep.close_of_open (lockstep : handle.Lockstep) (opened : 0 < handle.depth)
    (ending : Ending) : handle.close ending = (.ok (), handle.closed ending) := by
  cases ending with
  | keep => exact lockstep.commitScope_of_open opened
  | discard | unwind => exact congrArg (Prod.mk _) (lockstep.abandonScope_of_open opened)

theorem Lockstep.closed (lockstep : handle.Lockstep) (opened : 0 < handle.depth)
    (ending : Ending) : (handle.closed ending).Lockstep := by
  cases ending with
  | keep => exact (Does.kept opened).lockstep lockstep
  | discard | unwind => exact (Does.discarded opened).lockstep lockstep

end Handle

namespace Work

variable {α β : Type}

/-- What a program is told on its run, in order. -/
def replies {α : Type} : Work α → Handle → List Reply
  | done _, _ => []
  | call operation next, handle =>
      .answer operation (handle.perform operation).1 ::
        (next (handle.perform operation).1).replies (handle.perform operation).2
  | scope body ending next, handle =>
      let inside := body.run handle.openScope
      let closing := inside.2.close (ending inside.1)
      body.replies handle.openScope ++
        .outcome inside.1 closing.1 :: (next inside.1 closing.1).replies closing.2

/-- A scope runs its work, closes, and goes on. -/
theorem run_scope_close (body : Work β) (ending : β → Ending)
    (next : β → Except StoreError Unit → Work α) (handle : Handle) :
    (scope body ending next).run handle =
      let inside := body.run handle.openScope
      let closing := inside.2.close (ending inside.1)
      (next inside.1 closing.1).run closing.2 := by
  rw [run_scope]
  cases kind : ending (body.run handle.openScope).1 with
  | keep | discard | unwind => simp only [kind, Handle.close]

theorem replies_bind : ∀ {α : Type} (work : Work α) (next : α → Work β) (handle : Handle),
    (work.bind next).replies handle =
      work.replies handle ++ (next (work.run handle).1).replies (work.run handle).2
  | _, .done _, _, _ => rfl
  | _, .call operation rest, next, handle => by
      have later := replies_bind (rest (handle.perform operation).1) next (handle.perform operation).2
      simp only [bind, replies, later, List.cons_append]
      rfl
  | _, .scope body ending rest, next, handle => by
      have later (value) (closing) := replies_bind (rest value closing) next
      simp only [bind, replies, later, run_scope_close, List.append_assoc, List.cons_append]

end Work

namespace Handle

variable {handle : Handle}

/-- Where the records of the scopes are in step, a scope closes without a failure, and the program
goes on behind it. -/
theorem Lockstep.scope_closes (lockstep : handle.Lockstep) {α β : Type} (body : Work β)
    (ending : β → Ending) (next : β → Except StoreError Unit → Work α) :
    let inside := body.run handle.openScope
    let behind := inside.2.closed (ending inside.1)
    behind.Lockstep ∧
      (Work.scope body ending next).run handle = (next inside.1 (.ok ())).run behind ∧
      (Work.scope body ending next).replies handle =
        body.replies handle.openScope ++
          .outcome inside.1 (.ok ()) :: (next inside.1 (.ok ())).replies behind := by
  intro inside behind
  have within : inside.2.Lockstep := (lockstep.inside body).1
  have opened : 0 < inside.2.depth := lockstep.open_inside body
  have closes := within.close_of_open opened (ending inside.1)
  refine ⟨within.closed opened _, ?_, ?_⟩
  · rw [Work.run_scope_close]
    dsimp only
    rw [closes]
  · rw [Work.replies, closes]

/-! ## One operation -/

/-- The handle after an operation with a deed that has left some ids. -/
def after (handle : Handle) (deed : Deed) (ids : IdSource) : Handle :=
  match deed with
  | .wrote write => { handle.wrote write with ids }
  | .recorded change => { handle.record change with ids }
  | .quiet | .opened | .kept | .discarded => { handle with ids }

/-- What is quiet leaves all but the ids as they are. -/
theorem perform_of_quiet {α : Type} (handle : Handle) (operation : Operation α)
    (quiet : operation.deed (handle.perform operation).1 = .quiet) :
    (handle.perform operation).2 = { handle with ids := (handle.perform operation).2.ids } := by
  revert quiet
  cases operation with
  | insert kind body =>
      rw [perform]
      cases handle.insert kind body with
      | error cause => exact fun _ => rfl
      | ok done => rintro ⟨⟩
  | update kind body =>
      rw [perform]
      cases handle.update kind body with
      | error cause => exact fun _ => rfl
      | ok done => rintro ⟨⟩
  | delete kind id =>
      rw [perform]
      cases done : handle.delete kind id with
      | error cause => exact fun _ => rfl
      | ok result =>
          obtain ⟨existed, after⟩ := result
          obtain ⟨rfl, _⟩ | ⟨rfl, rfl⟩ := delete_eq_ok done
          · rintro ⟨⟩
          · exact fun _ => rfl
  | record change => rintro ⟨⟩
  | _ => exact fun _ => rfl

/-- **What an operation has done is its deed**, and that it has drawn ids. -/
theorem perform_eq_after {α : Type} (handle : Handle) (operation : Operation α) :
    (handle.perform operation).2 =
      handle.after (operation.deed (handle.perform operation).1)
        (handle.perform operation).2.ids := by
  have flat := operation.deed_flat (handle.perform operation).1
  have does := handle.does_perform operation
  cases deed : operation.deed (handle.perform operation).1 with
  | quiet => exact handle.perform_of_quiet operation deed
  | recorded change =>
      rw [deed] at does
      revert does
      generalize (handle.perform operation).2 = last
      rintro ⟨⟩
      rfl
  | wrote write =>
      rw [deed] at does
      revert does
      generalize (handle.perform operation).2 = last
      rintro ⟨⟩
      rfl
  | opened => exact absurd deed flat.1
  | kept => exact absurd deed flat.2.1
  | discarded => exact absurd deed flat.2.2

/-- Two handles show the same objects, have the same memory of undone versions, and have the same
ids and the same time. -/
structure SameSight (first second : Handle) : Prop where
  content : first.content = second.content
  undone : first.undone = second.undone
  ids : first.ids = second.ids
  now : first.now = second.now

/-- Two handles tell the same about the changes that they have recorded. -/
structure SameChanges (first second : Handle) : Prop where
  tracked : first.tracked = second.tracked
  pending : ∀ ref, first.pending ref = second.pending ref
  allPending : first.allPending = second.allPending

/-- **An operation answers alike on handles that show the same**, and draws the same ids. -/
theorem SameSight.answers {first second : Handle} (sight : SameSight first second) {α : Type}
    (operation : Operation α) (depth : operation.topic = .depth → first.depth = second.depth)
    (changes : operation.topic = .changes → SameChanges first second) :
    (first.perform operation).1 = (second.perform operation).1 ∧
      (first.perform operation).2.ids = (second.perform operation).2.ids := by
  obtain ⟨content, undone, ids, now⟩ := sight
  cases operation with
  | get kind id => exact ⟨by simp only [perform, get, content], ids⟩
  | getRef ref => exact ⟨by simp only [perform, getRef, content], ids⟩
  | list kind => exact ⟨by simp only [perform, list, content], ids⟩
  | count kind => exact ⟨by simp only [perform, count, content], ids⟩
  | tombstones => exact ⟨by simp only [perform, tombstones, content], ids⟩
  | insert kind body =>
      simp only [perform, insert, content]
      cases lift (Repository.insert second.content (encode kind (kind.withVersion body 1))) with
      | error cause => exact ⟨rfl, ids⟩
      | ok after => exact ⟨rfl, ids⟩
  | update kind body =>
      have expects : first.expectedVersion (kind.ref body) (kind.version body) =
          second.expectedVersion (kind.ref body) (kind.version body) := by
        rw [expectedVersion, expectedVersion, undone]
      simp only [perform, update_eq _ kind body rfl, expects, content]
      cases lift (Repository.update second.content _ _) with
      | error cause => exact ⟨rfl, ids⟩
      | ok after => exact ⟨rfl, ids⟩
  | delete kind id =>
      simp only [perform, delete, content, now]
      cases lift (Repository.delete second.content ⟨kind, id⟩) with
      | error cause => exact ⟨rfl, ids⟩
      | ok result =>
          obtain ⟨existed, after⟩ := result
          cases existed with
          | false => exact ⟨rfl, ids⟩
          | true =>
              simp only [bind, Except.bind, if_true]
              cases lift (Repository.addTombstone after second.now ⟨kind, id⟩) with
              | error cause => exact ⟨rfl, ids⟩
              | ok buried => exact ⟨rfl, ids⟩
  | draw => exact ⟨by simp only [perform, ids], by simp only [perform, ids]⟩
  | depth => exact ⟨depth rfl, ids⟩
  | tracked => exact ⟨(changes rfl).tracked, ids⟩
  | pending ref => exact ⟨(changes rfl).pending ref, ids⟩
  | allPending => exact ⟨(changes rfl).allPending, ids⟩
  | record change => exact ⟨rfl, ids⟩

/-! ## Whole runs -/

/-- A relation between two handles, for each number of scopes that were opened on both of them,
that work cannot leave which avoids some topics. -/
structure Simulation (topics : List Topic) (related : Nat → Handle → Handle → Prop) : Prop where
  sight : ∀ {level first second}, related level first second → SameSight first second
  depth : ∀ {level first second}, related level first second → .depth ∉ topics →
    first.depth = second.depth
  changes : ∀ {level first second}, related level first second → .changes ∉ topics →
    SameChanges first second
  after : ∀ {level first second}, related level first second → ∀ deed ids,
    related level (first.after deed ids) (second.after deed ids)
  opened : ∀ {level first second}, related level first second →
    related (level + 1) first.openScope second.openScope
  closed : ∀ {level first second}, first.Lockstep → second.Lockstep → 0 < first.depth →
    0 < second.depth → related (level + 1) first second → ∀ ending,
    related level (first.closed ending) (second.closed ending)

namespace Simulation

variable {topics : List Topic} {related : Nat → Handle → Handle → Prop}

/-- An operation that avoids the topics answers alike and keeps the relation. -/
theorem perform (simulation : Simulation topics related) {level : Nat} {first second : Handle}
    (relates : related level first second) {α : Type} (operation : Operation α)
    (avoids : operation.topic ∉ topics) :
    (first.perform operation).1 = (second.perform operation).1 ∧
      related level (first.perform operation).2 (second.perform operation).2 := by
  have answers := (simulation.sight relates).answers operation
    (fun depth => simulation.depth relates (depth ▸ avoids))
    (fun changes => simulation.changes relates (changes ▸ avoids))
  refine ⟨answers.1, ?_⟩
  rw [perform_eq_after first, perform_eq_after second, answers.1, answers.2]
  exact simulation.after relates _ _

/-- **Related handles stay related on every run of the same work**, which is told the same on both
and gives the same. -/
theorem run (simulation : Simulation topics related) : ∀ {α : Type} (work : Work α) {level : Nat}
    {first second : Handle}, first.Lockstep → second.Lockstep → work.Avoids topics →
    related level first second →
      (work.run first).1 = (work.run second).1 ∧ work.replies first = work.replies second ∧
        related level (work.run first).2 (work.run second).2
  | _, .done value, _, _, _, _, _, _, relates => ⟨rfl, rfl, relates⟩
  | _, .call operation next, _, first, second, lockstep, lockstep', avoids, relates => by
      obtain ⟨same, relates⟩ := simulation.perform relates operation avoids.1
      have rests := simulation.run (next (first.perform operation).1)
        ((first.does_perform operation).lockstep lockstep)
        ((second.does_perform operation).lockstep lockstep') (avoids.2 _) relates
      simp only [Work.run, Work.replies, ← same]
      exact ⟨rests.1, congrArg _ rests.2.1, rests.2.2⟩
  | _, .scope body ending next, _, first, second, lockstep, lockstep', avoids, relates => by
      obtain ⟨value, told, inside⟩ := simulation.run body
        ((Does.opened first).lockstep lockstep) ((Does.opened second).lockstep lockstep')
        avoids.1 (simulation.opened relates)
      have behind := simulation.closed (lockstep.inside body).1 (lockstep'.inside body).1
        (lockstep.open_inside body) (lockstep'.open_inside body) inside
          (ending (body.run second.openScope).1)
      obtain ⟨later, ran, replied⟩ := lockstep.scope_closes body ending next
      obtain ⟨later', ran', replied'⟩ := lockstep'.scope_closes body ending next
      rw [value] at later ran replied
      rw [ran, ran', replied, replied', told]
      obtain ⟨given, last, relates⟩ :=
        simulation.run (next _ (.ok ())) later later' (avoids.2 _ _) behind
      exact ⟨given, by rw [last], relates⟩

end Simulation

/-! ## The log -/

/-- Two handles differ in nothing but their logs. -/
def SameButLog (first second : Handle) : Prop := ∃ log, second = { first with log }

theorem SameButLog.closed {first second : Handle} (same : SameButLog first second)
    (ending : Ending) : SameButLog (first.closed ending) (second.closed ending) := by
  obtain ⟨log, rfl⟩ := same
  cases ending <;> exact ⟨_, rfl⟩

/-- **Nothing reads the log.** -/
theorem simulation_log : Simulation [] fun _ => SameButLog where
  sight := by
    rintro _ first _ ⟨log, rfl⟩
    exact ⟨rfl, rfl, rfl, rfl⟩
  depth := by
    rintro _ first _ ⟨log, rfl⟩ _
    rfl
  changes := by
    rintro _ first _ ⟨log, rfl⟩ _
    exact ⟨rfl, fun _ => rfl, rfl⟩
  after := by
    rintro _ first _ ⟨log, rfl⟩ deed ids
    cases deed with
    | wrote write => cases write <;> exact ⟨_, rfl⟩
    | _ => exact ⟨_, rfl⟩
  opened := by
    rintro _ first _ ⟨log, rfl⟩
    exact ⟨_, rfl⟩
  closed _ _ _ _ same ending := same.closed ending

/-- So two handles that differ in their logs alone go on alike. -/
theorem SameButLog.run {first second : Handle} (same : SameButLog first second)
    (lockstep : first.Lockstep) (lockstep' : second.Lockstep) {α : Type} (work : Work α) :
    (work.run first).1 = (work.run second).1 ∧ work.replies first = work.replies second ∧
      SameButLog (work.run first).2 (work.run second).2 :=
  @Simulation.run [] (fun _ => SameButLog) simulation_log α work 0 first second lockstep lockstep'
    work.avoids_nil same

end Handle

/-! ## Transactions -/

namespace Store

variable {α : Type}

/-- How a transaction goes, told by the handle at the end of its work. -/
theorem attempt_eq (store : Store) (tracked : Bool) (work : Work α) (ending : α → Ending) :
    store.attempt tracked work ending =
      if store.contention = .writing then (.refused (.ofEngine .locked), store)
      else
        let inside := work.run (Handle.start store.database tracked store.ids store.now).openScope
        let last := inside.2.closed (ending inside.1)
        let after := store.absorb last
        match ending inside.1 with
        | .keep => (.ended inside.1 (after.commit last).1, (after.commit last).2)
        | .discard => (.ended inside.1 (.ok []), after.note (.rolledBack tracked))
        | .unwind => (.ended inside.1 (.ok []), after) := by
  have lockstep := Handle.lockstep_start store.database tracked store.ids store.now
  have ran := (lockstep.scope_closes work ending fun value closing => .done (value, closing)).2.1
  rw [attempt]
  by_cases busy : store.contention = .writing
  · rw [if_pos busy, if_pos busy]
  · rw [if_neg busy, if_neg busy]
    dsimp only
    rw [ran, Work.run]
    cases ending _ <;> rfl

/-- A transaction changes nothing of a store but its data, the ids that are left and the log. -/
theorem attempt_store (store : Store) (tracked : Bool) (work : Work α) (ending : α → Ending) :
    ∃ database ids log,
      (store.attempt tracked work ending).2 = { store with database, ids, log } := by
  rw [attempt_eq]
  by_cases busy : store.contention = .writing
  · rw [if_pos busy]
    exact ⟨store.database, store.ids, store.log, rfl⟩
  · rw [if_neg busy]
    dsimp only
    cases ending _ with
    | keep =>
        dsimp only [commit, absorb]
        by_cases read : store.contention = .reading
        · rw [if_pos read]
          exact ⟨store.database, _, _, rfl⟩
        · rw [if_neg read]
          exact ⟨_, _, _, rfl⟩
    | discard | unwind => exact ⟨store.database, _, _, rfl⟩

/-- Work that gives the same, and leaves handles that differ in nothing but their logs, makes the
same transaction. -/
theorem attempt_congr {store : Store} {tracked : Bool} {first second : Work α}
    {ending : α → Ending} {start : Handle}
    (begins : start = (Handle.start store.database tracked store.ids store.now).openScope)
    (value : (first.run start).1 = (second.run start).1)
    (last : (first.run start).2.SameButLog (second.run start).2) :
    AlikeAfter (store.attempt tracked first ending) (store.attempt tracked second ending) := by
  subst begins
  obtain ⟨log, closed⟩ := last.closed
    (ending (second.run (Handle.start store.database tracked store.ids store.now).openScope).1)
  rw [attempt_eq, attempt_eq]
  by_cases busy : store.contention = .writing
  · rw [if_pos busy, if_pos busy]
    exact ⟨rfl, store.busyTimeout, store.log, rfl⟩
  · rw [if_neg busy, if_neg busy]
    dsimp only
    rw [value, closed]
    cases ending _ with
    | keep =>
        dsimp only [commit, absorb]
        by_cases read : store.contention = .reading
        · rw [if_pos read, if_pos read]
          exact ⟨rfl, store.busyTimeout, _, rfl⟩
        · rw [if_neg read, if_neg read]
          exact ⟨rfl, store.busyTimeout, _, rfl⟩
    | discard | unwind => exact ⟨rfl, store.busyTimeout, _, rfl⟩

end Store

end ScopedStore
