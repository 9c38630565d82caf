import ScopedStore.Proofs.Scopes
import ScopedStore.Store

/-!
# What a failure leaves behind

A scope that is not kept leaves no trace in the data. Its savepoint holds the content from which
it set out, its frame goes away as a whole, and nothing inside it has reached the savepoints and
frames of the scopes around it, however many scopes were kept or discarded on the way. The same
holds of a transaction: unless its content was taken over, the store has the database and the bus
that it had, and does next what it would have done, only with the ids that are left.
-/

set_option autoImplicit false

namespace ScopedStore

/-! ## Scopes -/

namespace Handle

/-- Two handles give the same answers about the data: the content of the database, what is
pending, for all objects and for each of them, and the number of open scopes. -/
structure SameData (before after : Handle) : Prop where
  content : after.content = before.content
  allPending : after.allPending = before.allPending
  pending : ∀ ref, after.pending ref = before.pending ref
  depth : after.depth = before.depth

theorem sameData_of_frames {before after : Handle} (content : after.content = before.content)
    (frames : after.frames = before.frames) (depth : after.depth = before.depth) :
    SameData before after where
  content := content
  allPending := by rw [allPending_eq, allPending_eq, frames]
  pending ref := by rw [pending_eq, pending_eq, frames]
  depth := depth

variable {handle : Handle}

/-- The handle after work in a scope of its own that is open. -/
theorem Lockstep.inside (lockstep : handle.Lockstep) {α : Type} (work : Work α) :
    (work.run handle.openScope).2.Lockstep ∧
      SameBelow 0 0 handle.openScope (work.run handle.openScope).2 ∧
      (work.run handle.openScope).2.tracked = handle.tracked := by
  have opens := Does.opened handle
  have opened := opens.lockstep lockstep
  rw [work.run_eq_play]
  exact ⟨opened.play _, opened.play_below (work.nested_moves _) (Nat.zero_le _),
    (opened.tracked_play _).trans opens.tracked_eq⟩

/-- **Discarding a scope undoes all work in it.** -/
theorem Lockstep.sameData_abandonScope (lockstep : handle.Lockstep) {α : Type} (work : Work α) :
    SameData handle (work.run handle.openScope).2.abandonScope := by
  obtain ⟨inside, below, alike⟩ := lockstep.inside work
  have depth : (work.run handle.openScope).2.depth = handle.depth + 1 := below.depth
  have opened : 0 < (work.run handle.openScope).2.depth := depth ▸ Nat.succ_pos handle.depth
  rw [inside.abandonScope_of_open opened]
  refine sameData_of_frames (Connection.content_undo below.savepoints) ?_ ?_
  · -- Frames below the innermost one are out of reach; without records there are none at all.
    rw [frames_dropped]
    cases tracked : handle.tracked with
    | true =>
        refine Frames.dropped_of_drop (fun none => ?_) ?_
        · rw [frames_eq_nil.1 none] at tracked
          cases tracked
        · rw [← frames_openScope]
          exact below.frames
    | false =>
        rw [frames_eq_nil.2 tracked, frames_eq_nil.2 (alike.trans tracked)]
        rfl
  · exact congrArg (· - 1) depth

/-- Closing a scope does not fail, and whether the scope stays is decided by its work. -/
theorem Lockstep.run_scope (lockstep : handle.Lockstep) {α : Type} (work : Work α)
    (ending : α → Ending) :
    (Work.scope work ending fun value closing => .done (value, closing)).run handle =
      (((work.run handle.openScope).1, .ok ()),
        match ending (work.run handle.openScope).1 with
        | .keep => (work.run handle.openScope).2.kept
        | .discard | .unwind => (work.run handle.openScope).2.abandonScope) := by
  obtain ⟨inside, below, _⟩ := lockstep.inside work
  have depth : (work.run handle.openScope).2.depth = handle.depth + 1 := below.depth
  rw [Work.run_scope]
  cases ending (work.run handle.openScope).1 with
  | keep =>
      rw [inside.commitScope_of_open (depth ▸ Nat.succ_pos handle.depth)]
      rfl
  | discard => rfl
  | unwind => rfl

/-- A scope gives the value of its work, and leaves no trace unless it is kept. -/
theorem Lockstep.scope_leaves_no_trace (lockstep : handle.Lockstep) {α : Type} (work : Work α)
    (ending : α → Ending) :
    let value := (work.run handle.openScope).1
    let ran := (Work.scope work ending fun value closing => .done (value, closing)).run handle
    ran.1 = (value, .ok ()) ∧ (ending value ≠ .keep → SameData handle ran.2) := by
  intro value ran
  have closed : ran = _ := lockstep.run_scope work ending
  refine ⟨by rw [closed], fun failed => ?_⟩
  rw [closed]
  cases kind : ending value with
  | keep => exact absurd kind failed
  | discard | unwind => exact lockstep.sameData_abandonScope work

/-- A nested scope gives the answer of its work, and leaves no trace if that is an error. -/
theorem Lockstep.nested_leaves_no_trace (lockstep : handle.Lockstep) {α : Type}
    (work : Transaction α) :
    let answer := (Work.run work.run handle.openScope).1
    let ran := Work.run work.nested.run handle
    ran.1 = answer ∧ ∀ cause, answer = .error cause → SameData handle ran.2 := by
  intro answer ran
  obtain ⟨inside, below, _⟩ := lockstep.inside work.run
  have depth : (Work.run work.run handle.openScope).2.depth = handle.depth + 1 := below.depth
  have closed : ran = _ := Work.run_scope work.run Transaction.ending _ handle
  rw [closed]
  cases given : (Work.run work.run handle.openScope).1 with
  | ok value =>
      have ok : answer = .ok value := given
      rw [ok]
      dsimp only [Transaction.ending]
      rw [inside.commitScope_of_open (depth ▸ Nat.succ_pos handle.depth)]
      exact ⟨rfl, nofun⟩
  | error cause =>
      have error : answer = .error cause := given
      rw [error]
      exact ⟨rfl, fun _ _ => lockstep.sameData_abandonScope work.run⟩

end Handle

/-! ## Transactions -/

namespace Store.Outcome

variable {α : Type}

/-- What the transaction has done was taken over. -/
def Committed (ending : α → Ending) : Outcome α → Prop
  | refused _ => False
  | ended value changes => ending value = .keep ∧ ∃ committed, changes = .ok committed

/-- If the work was done, this is what it gave. -/
def Gives (value : α) : Outcome α → Prop
  | refused _ => True
  | ended given _ => given = value

/-- The changes that were committed; there are none where nothing was. -/
def changes : Outcome α → List Change
  | ended _ (.ok changes) => changes
  | refused _ | ended _ (.error _) => []

end Store.Outcome

namespace Store

/-- A store in memory that holds nothing yet. -/
def vacant : Store where
  config := .inMemory
  place := none
  database := .vacant
  busyTimeout := Config.defaultBusyTimeout.milliseconds
  contention := .free
  bus := .empty
  ids := default
  now := 0
  log := []

/-- The store without the two things that no transaction looks at: what has been logged, and the
waiting time in force. -/
def core (store : Store) : Store := { store with busyTimeout := 0, log := [] }

variable {α : Type}

/-- A transaction depends on the core of the store alone. -/
theorem attempt_eq_core (store : Store) (tracked : Bool) (work : Work α) (ending : α → Ending) :
    store.attempt tracked work ending =
      ((store.core.attempt tracked work ending).1,
        { (store.core.attempt tracked work ending).2 with
          busyTimeout := store.busyTimeout
          log := store.log ++ (store.core.attempt tracked work ending).2.log }) := by
  obtain ⟨config, place, database, busyTimeout, contention, bus, ids, now, log⟩ := store
  rw [core, attempt, attempt]
  by_cases busy : contention = .writing
  · rw [if_pos busy, if_pos busy]
    simp only [List.append_nil]
  · rw [if_neg busy, if_neg busy]
    dsimp only
    -- Both begin with the same handle, so the run itself is the same.
    generalize (Work.scope work ending fun value closing => .done (value, closing)).run
      (Handle.start database tracked ids now) = ran
    obtain ⟨⟨value, closing⟩, handle⟩ := ran
    cases ending value with
    | keep =>
        cases closing with
        | ok =>
            dsimp only [commit, absorb]
            by_cases read : contention = .reading
            · rw [if_pos read, if_pos read]
              rfl
            · rw [if_neg read, if_neg read]
              simp only [note, noteAll, List.nil_append, List.append_assoc]
        | error cause => simp only [absorb, note, noteAll, List.nil_append, List.append_assoc]
    | discard => simp only [absorb, note, noteAll, List.nil_append, List.append_assoc]
    | unwind => rfl

theorem reading_eq_core (store : Store) : store.reading = store.core.reading := by
  rw [reading, reading, countTabs, countTabs, attempt_eq_core, attempt_eq_core]
  rfl

/-- Whatever becomes of a transaction, it gives the value of its work. -/
theorem attempt_gives (store : Store) (tracked : Bool) (work : Work α) (ending : α → Ending) :
    (store.attempt tracked work ending).1.Gives
      (work.run (Handle.start store.database tracked store.ids store.now).openScope).1 := by
  have lockstep := Handle.lockstep_start store.database tracked store.ids store.now
  rw [attempt]
  by_cases busy : store.contention = .writing
  · rw [if_pos busy]
    trivial
  · rw [if_neg busy]
    dsimp only
    rw [lockstep.run_scope work ending]
    dsimp only
    cases ending _ <;> rfl

/-- A transaction that is not committed has no changes, and leaves all but the log and the ids as
it was. -/
theorem attempt_of_failed (store : Store) (tracked : Bool) (work : Work α) (ending : α → Ending)
    (failed : ¬(store.attempt tracked work ending).1.Committed ending) :
    (∀ value changes,
      (store.attempt tracked work ending).1 = .ended value (.ok changes) → changes = []) ∧
    ∃ ids log, (store.attempt tracked work ending).2 = { store with ids, log } := by
  revert failed
  rw [attempt]
  by_cases busy : store.contention = .writing
  · rw [if_pos busy]
    exact fun _ => ⟨nofun, store.ids, store.log, rfl⟩
  · rw [if_neg busy]
    dsimp only
    generalize (Work.scope work ending fun value closing => .done (value, closing)).run
      (Handle.start store.database tracked store.ids store.now) = ran
    obtain ⟨⟨value, closing⟩, handle⟩ := ran
    cases kind : ending value with
    | keep =>
        cases closing with
        | ok =>
            dsimp only [commit, absorb]
            by_cases read : store.contention = .reading
            · rw [if_pos read]
              exact fun _ => ⟨nofun, handle.ids, store.log ++ handle.log, rfl⟩
            · rw [if_neg read]
              exact fun failed => absurd ⟨kind, _, rfl⟩ failed
        | error cause => exact fun _ => ⟨nofun, handle.ids, _, rfl⟩
    | discard =>
        refine fun _ => ⟨fun _ _ same => ?_, handle.ids, _, rfl⟩
        cases same
        rfl
    | unwind =>
        refine fun _ => ⟨fun _ _ same => ?_, handle.ids, _, rfl⟩
        cases same
        rfl

/-- Two stores differ in nothing but their logs and the waiting times in force. -/
def Alike (first second : Store) : Prop :=
  ∃ busyTimeout log, second = { first with busyTimeout, log }

/-- The answer is the same, and the stores behind it are alike. -/
def AlikeAfter {β : Type} (first second : β × Store) : Prop :=
  first.1 = second.1 ∧ first.2.Alike second.2

theorem attempt_alike {first second : Store} (alike : first.Alike second) (tracked : Bool)
    (work : Work α) (ending : α → Ending) :
    AlikeAfter (first.attempt tracked work ending) (second.attempt tracked work ending) := by
  obtain ⟨busyTimeout, log, rfl⟩ := alike
  rw [attempt_eq_core first, attempt_eq_core { first with busyTimeout, log }]
  exact ⟨rfl, busyTimeout, _, rfl⟩

theorem publish_alike {first second : Store} (alike : first.Alike second)
    (changes : List Change) : (first.publish changes).Alike (second.publish changes) := by
  obtain ⟨busyTimeout, log, rfl⟩ := alike
  have readings : first.reading = { first with busyTimeout, log }.reading := by
    rw [reading_eq_core first, reading_eq_core { first with busyTimeout, log }]
    rfl
  rw [publish, publish, ← readings]
  exact ⟨busyTimeout, _, rfl⟩

theorem restoreTimeout_eq (store : Store) :
    ∃ busyTimeout, store.restoreTimeout = { store with busyTimeout } := by
  rw [restoreTimeout]
  cases engineTimeout store.config.busyTimeout with
  | ok usual => exact ⟨usual, rfl⟩
  | error refusal => exact ⟨store.busyTimeout, rfl⟩

/-- An untracked transaction is an attempt with the waiting time for the first data, unless the
engine has no room for that. -/
theorem runUntracked_of_fits {store : Store} {waiting : Nat}
    (fits : engineTimeout store.config.initialTimeout = .ok waiting) (work : Work α)
    (ending : α → Ending) :
    let ran := ({ store with busyTimeout := waiting } : Store).attempt false work ending
    (store.runUntracked work ending).1 = .ok ran.1 ∧
      ∃ busyTimeout, (store.runUntracked work ending).2 = { ran.2 with busyTimeout } := by
  rw [runUntracked, fits]
  dsimp only
  generalize Store.attempt _ false work ending = ran
  obtain ⟨outcome, after⟩ := ran
  cases outcome with
  | refused cause => exact ⟨rfl, after.restoreTimeout_eq⟩
  | ended value changes =>
      dsimp only
      cases ending value with
      | keep | discard => exact ⟨rfl, after.restoreTimeout_eq⟩
      | unwind => exact ⟨rfl, after.busyTimeout, rfl⟩

/-- Where the engine has no room for the waiting time, nothing is done at all. -/
theorem runUntracked_of_long {store : Store} {refusal : Refusal}
    (long : engineTimeout store.config.initialTimeout = .error refusal) (work : Work α)
    (ending : α → Ending) : store.runUntracked work ending = (.error refusal, store) := by
  rw [runUntracked, long]

theorem publish_nil (store : Store) : store.publish [] = store := by
  rw [publish, Bus.publish]
  simp only [List.isEmpty_nil, if_true, noteAll, List.append_nil]

/-- **A tracked transaction is an attempt, and then its changes are delivered.** -/
theorem runTracked_eq (store : Store) (work : Work α) (ending : α → Ending) :
    let ran := store.attempt true work ending
    store.runTracked work ending = (ran.1, ran.2.publish ran.1.changes) := by
  rw [runTracked]
  obtain ⟨_ | ⟨value, _ | changes⟩, after⟩ := store.attempt true work ending
  · exact congrArg (Prod.mk _) (publish_nil after).symm
  · exact congrArg (Prod.mk _) (publish_nil after).symm
  · rfl

/-- Attempts that are alike make transactions that are alike. -/
theorem runTracked_alike_of_attempt {first second : Store} {work other : Work α}
    {ending : α → Ending}
    (attempts : AlikeAfter (first.attempt true work ending) (second.attempt true other ending)) :
    AlikeAfter (first.runTracked work ending) (second.runTracked other ending) := by
  obtain ⟨outcome, stores⟩ := attempts
  rw [runTracked_eq, runTracked_eq]
  refine ⟨outcome, ?_⟩
  rw [outcome]
  exact publish_alike stores _

theorem runTracked_alike {first second : Store} (alike : first.Alike second) (work : Work α)
    (ending : α → Ending) :
    AlikeAfter (first.runTracked work ending) (second.runTracked work ending) :=
  runTracked_alike_of_attempt (attempt_alike alike true work ending)

theorem runUntracked_alike {first second : Store} (alike : first.Alike second) (work : Work α)
    (ending : α → Ending) :
    AlikeAfter (first.runUntracked work ending) (second.runUntracked work ending) := by
  have config : second.config = first.config := by
    obtain ⟨_, _, rfl⟩ := alike
    rfl
  cases fits : engineTimeout first.config.initialTimeout with
  | error refusal =>
      rw [runUntracked_of_long fits, runUntracked_of_long (config ▸ fits)]
      exact ⟨rfl, alike⟩
  | ok waiting =>
      obtain ⟨outcome, _, left⟩ := runUntracked_of_fits fits work ending
      obtain ⟨outcome', _, left'⟩ := runUntracked_of_fits (config ▸ fits) work ending
      have waits : Alike { first with busyTimeout := waiting }
          { second with busyTimeout := waiting } := by
        obtain ⟨_, log, rfl⟩ := alike
        exact ⟨waiting, log, rfl⟩
      obtain ⟨same, _, log, stores⟩ := attempt_alike waits false work ending
      refine ⟨by rw [outcome, outcome', same], ?_⟩
      rw [left, left', stores]
      exact ⟨_, log, rfl⟩

/-- Nothing shows that there was a transaction between two stores: the database and the bus are
the same, and every further transaction goes as it would have gone, with the ids that are left. -/
structure Undisturbed (before after : Store) : Prop where
  database : after.database = before.database
  bus : after.bus = before.bus
  runTracked : ∀ {β : Type} (next : Work β) (ending : β → Ending),
    AlikeAfter ({ before with ids := after.ids }.runTracked next ending)
      (after.runTracked next ending)
  runUntracked : ∀ {β : Type} (next : Work β) (ending : β → Ending),
    AlikeAfter ({ before with ids := after.ids }.runUntracked next ending)
      (after.runUntracked next ending)

theorem undisturbed_of_alike {before after : Store}
    (alike : { before with ids := after.ids }.Alike after) : before.Undisturbed after where
  database := by
    obtain ⟨_, _, rest⟩ := alike
    rw [rest]
  bus := by
    obtain ⟨_, _, rest⟩ := alike
    rw [rest]
  runTracked next ending := runTracked_alike alike next ending
  runUntracked next ending := runUntracked_alike alike next ending

theorem runTracked_gives (store : Store) (work : Work α) (ending : α → Ending) :
    (store.runTracked work ending).1.Gives
      (work.run (Handle.start store.database true store.ids store.now).openScope).1 := by
  rw [runTracked_eq]
  exact store.attempt_gives true work ending

theorem runUntracked_gives (store : Store) (work : Work α) (ending : α → Ending)
    (outcome : Outcome α) (answered : (store.runUntracked work ending).1 = .ok outcome) :
    outcome.Gives
      (work.run (Handle.start store.database false store.ids store.now).openScope).1 := by
  cases fits : engineTimeout store.config.initialTimeout with
  | error refusal =>
      rw [runUntracked_of_long fits] at answered
      cases answered
  | ok waiting =>
      rw [(runUntracked_of_fits fits work ending).1] at answered
      cases answered
      exact attempt_gives { store with busyTimeout := waiting } false work ending

/-- A transaction that is not committed has no changes. -/
theorem changes_of_failed {store : Store} {tracked : Bool} {work : Work α} {ending : α → Ending}
    (failed : ¬(store.attempt tracked work ending).1.Committed ending) :
    (store.attempt tracked work ending).1.changes = [] := by
  have none := (store.attempt_of_failed tracked work ending failed).1
  revert none
  obtain ⟨_ | ⟨value, _ | changes⟩, after⟩ := store.attempt tracked work ending
  · exact fun _ => rfl
  · exact fun _ => rfl
  · exact fun none => none value changes rfl

/-- A transaction that is not committed publishes nothing. -/
theorem runTracked_eq_attempt {store : Store} {work : Work α} {ending : α → Ending}
    (failed : ¬(store.runTracked work ending).1.Committed ending) :
    store.runTracked work ending = store.attempt true work ending := by
  rw [runTracked_eq] at failed ⊢
  rw [changes_of_failed failed, publish_nil]

/-- A tracked transaction that is not committed is noticed by nobody. -/
theorem runTracked_of_failed {store : Store} {work : Work α} {ending : α → Ending}
    (failed : ¬(store.runTracked work ending).1.Committed ending) :
    store.Undisturbed (store.runTracked work ending).2 := by
  have same := runTracked_eq_attempt failed
  rw [same] at failed ⊢
  obtain ⟨_, ids, log, left⟩ := store.attempt_of_failed true work ending failed
  rw [left]
  exact undisturbed_of_alike ⟨store.busyTimeout, log, rfl⟩

/-- An untracked transaction that is not committed is noticed by nobody. -/
theorem runUntracked_of_failed {store : Store} {work : Work α} {ending : α → Ending}
    (failed : ∀ outcome, (store.runUntracked work ending).1 = .ok outcome →
      ¬outcome.Committed ending) :
    store.Undisturbed (store.runUntracked work ending).2 := by
  cases fits : engineTimeout store.config.initialTimeout with
  | error refusal =>
      rw [runUntracked_of_long fits]
      exact undisturbed_of_alike ⟨store.busyTimeout, store.log, rfl⟩
  | ok waiting =>
      obtain ⟨outcome, busyTimeout, left⟩ := runUntracked_of_fits fits work ending
      obtain ⟨_, ids, log, after⟩ := attempt_of_failed { store with busyTimeout := waiting } false
        work ending (failed _ outcome)
      rw [left, after]
      exact undisturbed_of_alike ⟨busyTimeout, log, rfl⟩

end Store

/-! ## All failures -/

/-- **A failure leaves no trace.** Take any handle that a transaction can reach, tracked or not,
and any work in a scope of its own there. The scope closes without a failure of its own, and what
comes out of it is what its work gave, an error as well as anything else; unless the scope was
kept, the data is the same as before it, whatever became of the scopes inside. And unless a
transaction was committed, the store goes on as if there had been none. -/
theorem failures_leave_no_trace :
    (∀ (database : Database) (tracked : Bool) (ids : IdSource) (now : Int) (moves : List Move)
        {α : Type} (work : Work α) (ending : α → Ending),
      let handle := (Handle.start database tracked ids now).play moves
      let value := (work.run handle.openScope).1
      let ran :=
        (Work.scope work ending fun value closing => .done (value, closing)).run handle
      ran.1 = (value, .ok ()) ∧ (ending value ≠ .keep → handle.SameData ran.2)) ∧
    (∀ (database : Database) (tracked : Bool) (ids : IdSource) (now : Int) (moves : List Move)
        {α : Type} (work : Transaction α),
      let handle := (Handle.start database tracked ids now).play moves
      let answer := (Work.run work.run handle.openScope).1
      let ran := Work.run work.nested.run handle
      ran.1 = answer ∧ ∀ cause, answer = .error cause → handle.SameData ran.2) ∧
    (∀ (store : Store) {α : Type} (work : Work α) (ending : α → Ending),
      let start := Handle.start store.database true store.ids store.now
      let ran := store.runTracked work ending
      ran.1.Gives (work.run start.openScope).1 ∧
        (¬ran.1.Committed ending → store.Undisturbed ran.2)) ∧
    (∀ (store : Store) {α : Type} (work : Work α) (ending : α → Ending),
      let start := Handle.start store.database false store.ids store.now
      let ran := store.runUntracked work ending
      (∀ outcome, ran.1 = .ok outcome → outcome.Gives (work.run start.openScope).1) ∧
        ((∀ outcome, ran.1 = .ok outcome → ¬outcome.Committed ending) →
          store.Undisturbed ran.2)) := by
  refine ⟨?_, ?_, ?_, ?_⟩
  · intro database tracked ids now moves α work ending
    have lockstep := (Handle.lockstep_start database tracked ids now).play moves
    exact lockstep.scope_leaves_no_trace work ending
  · intro database tracked ids now moves α work
    have lockstep := (Handle.lockstep_start database tracked ids now).play moves
    exact lockstep.nested_leaves_no_trace work
  · intro store α work ending
    exact ⟨store.runTracked_gives work ending, Store.runTracked_of_failed⟩
  · intro store α work ending
    exact ⟨store.runUntracked_gives work ending, Store.runUntracked_of_failed⟩

/-- A new tab is given up together with the scope in which it was stored. -/
theorem abandoned_tab_leaves_no_trace :
    let handle := (Handle.start .vacant true default 0).play [.openScope]
    let work := Work.ask (.insert .tab (Tab.new "t" "abandoned"))
    let ran := (Work.scope work (fun _ => .discard) fun answer closing =>
      .done (answer, closing)).run handle
    Ending.discard ≠ .keep ∧ handle.SameData ran.2 := by
  have discards : Ending.discard ≠ .keep := by decide
  exact ⟨discards, (failures_leave_no_trace.1 .vacant true default 0 [.openScope]
    (Work.ask (.insert .tab (Tab.new "t" "abandoned"))) fun _ => .discard).2 discards⟩

end ScopedStore
