import ScopedStore.Proofs.SideBySide

/-!
# Recording changes changes nothing else

A transaction that records its changes and one that does not go the same way, unless their work
asks about the recorded changes. Side by side their handles differ in the changes and the log
alone (`Handle.Unrecorded`), because nothing else that is done to a handle depends on these. So
the outcomes are the same but for the changes, and so are the stores but for what was delivered
(`Store.runUntracked_of_fits`).

There is one thing that an untracked transaction does before its work, which is to set the waiting
time for the first data. The settings of a store may ask for more time than the engine has room
for; then every untracked transaction of that store gives up, though a tracked one would succeed
(`untracked_gives_up`).
-/

set_option autoImplicit false

namespace ScopedStore

/-! ## Handles -/

namespace Handle

/-- The second handle is the first one without changes, and with a log of its own. -/
def Unrecorded (first second : Handle) : Prop := ∃ log, second = { first with changes := none, log }

theorem unrecorded_start (content : Database) (ids : IdSource) (now : Int) :
    Unrecorded (start content true ids now) (start content false ids now) := ⟨[], rfl⟩

theorem Unrecorded.opened {first second : Handle} (unrecorded : Unrecorded first second) :
    Unrecorded first.openScope second.openScope := by
  obtain ⟨log, rfl⟩ := unrecorded
  exact ⟨_, rfl⟩

theorem Unrecorded.closed {first second : Handle} (unrecorded : Unrecorded first second)
    (ending : Ending) : Unrecorded (first.closed ending) (second.closed ending) := by
  obtain ⟨log, rfl⟩ := unrecorded
  cases ending <;> exact ⟨_, rfl⟩

/-- **Work that does not ask about changes does not notice whether they are recorded.** -/
theorem simulation_unrecorded : Simulation [.changes] fun _ => Unrecorded where
  sight := by
    rintro _ first _ ⟨log, rfl⟩
    exact ⟨rfl, rfl, rfl, rfl⟩
  depth := by
    rintro _ first _ ⟨log, rfl⟩ _
    rfl
  changes _ asked := absurd (List.mem_singleton_self _) asked
  after := by
    rintro _ first _ ⟨log, rfl⟩ deed ids
    cases deed with
    | wrote write => cases write <;> exact ⟨_, rfl⟩
    | _ => exact ⟨_, rfl⟩
  opened unrecorded := unrecorded.opened
  closed _ _ _ _ unrecorded ending := unrecorded.closed ending

/-- Side by side, a transaction that records its changes and one that does not. -/
theorem run_unrecorded (content : Database) (ids : IdSource) (now : Int) {α : Type} (work : Work α)
    (avoids : work.Avoids [.changes]) :
    let recording := (start content true ids now).openScope
    let silent := (start content false ids now).openScope
    (work.run recording).1 = (work.run silent).1 ∧ work.replies recording = work.replies silent ∧
      Unrecorded (work.run recording).2 (work.run silent).2 := by
  intro recording silent
  have lockstep (tracked : Bool) : (start content tracked ids now).openScope.Lockstep :=
    (Does.opened _).lockstep (lockstep_start content tracked ids now)
  exact @Simulation.run [.changes] (fun _ => Unrecorded) simulation_unrecorded α work 0 recording
    silent (lockstep true) (lockstep false) avoids (unrecorded_start content ids now).opened

end Handle

/-! ## Transactions -/

namespace Store

variable {α : Type} {store : Store} {work : Work α} {ending : α → Ending}

/-- The outcome as it is where no changes are recorded. -/
def Outcome.withoutChanges : Outcome α → Outcome α
  | ended value (.ok _) => ended value (.ok [])
  | other => other

theorem attempt_unrecorded (store : Store) (ending : α → Ending)
    (avoids : work.Avoids [.changes]) :
    (store.attempt false work ending).1 = (store.attempt true work ending).1.withoutChanges ∧
      (store.attempt true work ending).2.Alike (store.attempt false work ending).2 := by
  obtain ⟨value, _, last⟩ := Handle.run_unrecorded store.database store.ids store.now work avoids
  rw [attempt_eq, attempt_eq]
  by_cases busy : store.contention = .writing
  · rw [if_pos busy, if_pos busy]
    exact ⟨rfl, store.busyTimeout, store.log, rfl⟩
  · rw [if_neg busy, if_neg busy]
    dsimp only
    rw [value]
    obtain ⟨log, closed⟩ := last.closed
      (ending (work.run (Handle.start store.database false store.ids store.now).openScope).1)
    rw [closed]
    cases ending _ with
    | keep =>
        dsimp only [commit, absorb]
        by_cases read : store.contention = .reading
        · rw [if_pos read, if_pos read]
          exact ⟨rfl, store.busyTimeout, _, rfl⟩
        · rw [if_neg read, if_neg read]
          exact ⟨rfl, store.busyTimeout, _, rfl⟩
    | discard | unwind => exact ⟨rfl, store.busyTimeout, _, rfl⟩

/-- **An untracked transaction goes as a tracked one**, but nothing is recorded and nothing is
delivered. -/
theorem runUntracked_unrecorded (ending : α → Ending) {waiting : Nat}
    (fits : engineTimeout store.config.initialTimeout = .ok waiting)
    (avoids : work.Avoids [.changes]) :
    (store.runUntracked work ending).1 = .ok (store.runTracked work ending).1.withoutChanges ∧
      ({ (store.runTracked work ending).2 with bus := store.bus } : Store).Alike
        (store.runUntracked work ending).2 := by
  obtain ⟨outcome, usual, left⟩ := runUntracked_of_fits fits work ending
  have waits : store.Alike { store with busyTimeout := waiting } := ⟨waiting, store.log, rfl⟩
  obtain ⟨same, _, _, attempted⟩ := attempt_alike waits false work ending
  obtain ⟨given, _, silent, unrecorded⟩ := store.attempt_unrecorded ending avoids
  obtain ⟨database, ids, log, recorded⟩ := store.attempt_store true work ending
  rw [runTracked_eq]
  refine ⟨by rw [outcome, ← same, given], ?_⟩
  rw [left, attempted, unrecorded, recorded]
  exact ⟨usual, _, rfl⟩

/-- So it gives the value or the failure that a tracked one gives, if the engine has room for its
waiting time. -/
theorem transactUntracked_eq (store : Store) (work : Transaction α)
    (avoids : work.Avoids [.changes]) :
    (store.transactUntracked work).1 =
      (engineTimeout store.config.initialTimeout).bind fun _ =>
        (store.transactValue work).1.mapError .failure := by
  cases fits : engineTimeout store.config.initialTimeout with
  | error refusal =>
      rw [transactUntracked, runUntracked_of_long fits]
      rfl
  | ok waiting =>
      have outcome := (runUntracked_unrecorded Transaction.ending fits avoids).1
      rw [transactUntracked, transactValue, transact]
      generalize store.runUntracked work.run Transaction.ending = ran at outcome ⊢
      generalize store.runTracked work.run Transaction.ending = recorded at outcome ⊢
      obtain ⟨_, silent⟩ := ran
      obtain ⟨tracked, after⟩ := recorded
      cases outcome
      rcases tracked with cause | ⟨_ | value, _ | changes⟩
      · rfl
      · rfl
      · rfl
      · rfl
      · rfl

end Store

/-- **Recording changes changes nothing else.** Take work that does not ask about the recorded
changes, and run it in a transaction that records its changes and in one that does not. It is
told the same at every step, and the handles at its end differ in the changes and the log alone.
If the engine has room for the waiting time for the first data, the untracked transaction has the
outcome of the tracked one without its changes, and leaves the same store, but the bus is as it
was before. If the engine has no room for it, the untracked transaction gives up before its work
and leaves everything as it was. -/
theorem recording_changes_nothing_else {α : Type} (store : Store) (work : Work α)
    (ending : α → Ending) (avoids : work.Avoids [.changes]) :
    let recording := (Handle.start store.database true store.ids store.now).openScope
    let silent := (Handle.start store.database false store.ids store.now).openScope
    let tracked := store.runTracked work ending
    let untracked := store.runUntracked work ending
    (work.replies recording = work.replies silent ∧
      Handle.Unrecorded (work.run recording).2 (work.run silent).2) ∧
    (∀ waiting, Store.engineTimeout store.config.initialTimeout = .ok waiting →
      untracked.1 = .ok tracked.1.withoutChanges ∧
        ({ tracked.2 with bus := store.bus } : Store).Alike untracked.2) ∧
    (∀ refusal, Store.engineTimeout store.config.initialTimeout = .error refusal →
      untracked = (.error refusal, store)) := by
  intro recording silent tracked untracked
  refine ⟨?_, fun waiting fits => ?_, fun refusal long => ?_⟩
  · exact (Handle.run_unrecorded store.database store.ids store.now work avoids).2
  · exact Store.runUntracked_unrecorded ending fits avoids
  · exact Store.runUntracked_of_long long work ending

/-- A tab that is stored without a record of it. -/
theorem unrecorded_tab_is_stored :
    let work := Work.ask (.insert .tab (Tab.new "t" "silent"))
    let tracked := Store.vacant.runTracked work fun _ => .keep
    let untracked := Store.vacant.runUntracked work fun _ => .keep
    work.Avoids [.changes] ∧ untracked.1 = .ok tracked.1.withoutChanges := by
  intro work tracked untracked
  have avoids : work.Avoids [.changes] := ⟨by decide, fun _ => trivial⟩
  exact ⟨avoids, ((recording_changes_nothing_else .vacant work (fun _ => .keep) avoids).2.1 2000
    rfl).1⟩

/-- The settings ask for one millisecond more than the engine has room for. They are accepted, and
a tracked transaction stores a tab, but an untracked one gives up. -/
theorem untracked_gives_up :
    let config := { Config.inMemory with initialTimeout := .ofMilliseconds Bounds.signed32 }
    let store := { Store.vacant with config }
    let work := Transaction.ask (.insert .tab (Tab.new "t" ""))
    config.validate = .ok () ∧
      (store.transactValue work).1 = .ok { Tab.new "t" "" with version := 1 } ∧
      (store.transactUntracked work).1 = .error (.panic Store.timeoutTooLong) := by
  intro config store work
  exact ⟨by decide, by decide +kernel, by decide +kernel⟩

end ScopedStore
