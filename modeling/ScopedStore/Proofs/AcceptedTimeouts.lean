import ScopedStore.Proofs.Graph.FirstData
import ScopedStore.Proofs.WaitingTimes

/-!
# Timeouts that are accepted and cannot be used

The settings of a store are accepted if their timeouts are more than nothing. The engine keeps
whole milliseconds, and has room for so many of them. So there are timeouts on either side of those
that it can use (`Timeout.Usable`) that are accepted all the same: of one that is shorter than a
millisecond nothing is left, and with one that is too long the program gives up, when the store is
opened or when an untracked transaction is begun.

A store lives with the settings that it was opened with (`Store.settings_useAll`), so what is said
here of its untracked transactions is said of every one of them, whatever was done before.
-/

set_option autoImplicit false

namespace ScopedStore

namespace Timeout

/-- The engine has room for the timeout. -/
def Fits (timeout : Timeout) : Prop := timeout.milliseconds < Bounds.signed32

/-- The timeout is one millisecond at least, and shorter than as many as take 32 bits. -/
def Usable (timeout : Timeout) : Prop :=
  (ofMilliseconds 1).nanoseconds ≤ timeout.nanoseconds ∧
    timeout.nanoseconds < (ofMilliseconds Bounds.signed32).nanoseconds

theorem usable_iff (timeout : Timeout) :
    timeout.Usable ↔ timeout.Fits ∧ timeout.milliseconds ≠ 0 := by
  simp only [Usable, Fits, milliseconds, ofMilliseconds, Bounds.signed32]
  omega

end Timeout

namespace Store

theorem engineTimeout_of_fits {timeout : Timeout} (fits : timeout.Fits) :
    engineTimeout timeout = .ok timeout.milliseconds := by
  rw [Timeout.Fits] at fits
  rw [engineTimeout, Timeout.forEngine?, if_pos fits]

theorem engineTimeout_of_not_fits {timeout : Timeout} (long : ¬timeout.Fits) :
    engineTimeout timeout = .error (.panic timeoutTooLong) := by
  rw [Timeout.Fits] at long
  rw [engineTimeout, Timeout.forEngine?, if_neg long]

variable {config : Config}

/-! ## Opening -/

/-- **Opening a store in memory comes to what setting its waiting time comes to.** -/
theorem openIn_inMemory (files : FileTree) (locks : Locks) (ids : IdSource) (now : Int)
    (inMemory : config.path = none) (accepted : config.validate = .ok ()) :
    match engineTimeout config.busyTimeout with
    | .ok busyTimeout => ∃ store, (openIn files locks config ids now).result = .ok store ∧
        store.config = config ∧ store.busyTimeout = busyTimeout
    | .error refusal => (openIn files locks config ids now).result = .error refusal := by
  rw [openIn, accepted, inMemory]
  cases engineTimeout config.busyTimeout with
  | ok busyTimeout => exact ⟨_, rfl, rfl, rfl⟩
  | error refusal => rfl

theorem openIn_of_fits (files : FileTree) (locks : Locks) (ids : IdSource) (now : Int)
    (inMemory : config.path = none) (accepted : config.validate = .ok ())
    (fits : config.busyTimeout.Fits) :
    ∃ store, (openIn files locks config ids now).result = .ok store ∧ store.config = config ∧
      store.busyTimeout = config.busyTimeout.milliseconds := by
  have opening := openIn_inMemory files locks ids now inMemory accepted
  rwa [engineTimeout_of_fits fits] at opening

theorem openIn_of_not_fits (files : FileTree) (locks : Locks) (ids : IdSource) (now : Int)
    (inMemory : config.path = none) (accepted : config.validate = .ok ())
    (long : ¬config.busyTimeout.Fits) :
    (openIn files locks config ids now).result = .error (.panic timeoutTooLong) := by
  have opening := openIn_inMemory files locks ids now inMemory accepted
  rwa [engineTimeout_of_not_fits long] at opening

/-! ## The settings of an open store -/

/-- An untracked transaction changes neither the settings nor the place of the database. -/
theorem settings_runUntracked (store : Store) {α : Type} (work : Work α) (ending : α → Ending) :
    (store.runUntracked work ending).2.config = store.config ∧
      (store.runUntracked work ending).2.place = store.place := by
  cases fits : engineTimeout store.config.initialTimeout with
  | error refusal =>
      rw [runUntracked_of_long fits]
      exact ⟨rfl, rfl⟩
  | ok waiting =>
      obtain ⟨_, busyTimeout, left⟩ := runUntracked_of_fits fits work ending
      obtain ⟨database, ids, log, ran⟩ :=
        ({ store with busyTimeout := waiting } : Store).attempt_store false work ending
      rw [left, ran]
      exact ⟨rfl, rfl⟩

/-- **No use of a store changes its settings**, nor the place of its database. -/
theorem settings_use (store : Store) (use : Use) :
    (store.use use).config = store.config ∧ (store.use use).place = store.place := by
  have withBus (result : Except BusError Bus) : (store.withBus result).config = store.config ∧
      (store.withBus result).place = store.place := by
    cases result <;> exact ⟨rfl, rfl⟩
  cases use with
  | ensureInitialData =>
      obtain ⟨database, busyTimeout, ids, log, left⟩ := store.ensureInitialData_store
      rw [Store.use, left]
      exact ⟨rfl, rfl⟩
  | call call =>
      cases call with
      | tracked work ending =>
          obtain ⟨database, ids, log, left⟩ := store.attempt_store true work ending
          rw [Store.use, act, runTracked_eq, left]
          exact ⟨rfl, rfl⟩
      | untracked work ending => exact store.settings_runUntracked work ending
      | openChannel spelling label => exact withBus _
      | register spelling sink =>
          rw [Store.use, act]
          split
          · exact withBus _
          · exact ⟨rfl, rfl⟩
      | unregister spelling => exact withBus _
      | dropReceiver label => exact ⟨rfl, rfl⟩
      | meanwhile database contention now => exact ⟨rfl, rfl⟩

theorem settings_useAll (store : Store) (uses : List Use) :
    (store.useAll uses).config = store.config ∧ (store.useAll uses).place = store.place := by
  induction uses using List.reverseRecOn with
  | nil => exact ⟨rfl, rfl⟩
  | append_singleton past use ih =>
      obtain ⟨config, place⟩ := (store.useAll past).settings_use use
      rw [useAll_concat]
      exact ⟨config.trans ih.1, place.trans ih.2⟩

/-! ## Untracked transactions -/

/-- **An untracked transaction begins exactly if the engine has room for its waiting time.** -/
theorem runUntracked_begins_iff (store : Store) {α : Type} (work : Work α) (ending : α → Ending) :
    ((∃ outcome, (store.runUntracked work ending).1 = .ok outcome) ↔
      store.config.initialTimeout.Fits) ∧
    (¬store.config.initialTimeout.Fits →
      store.runUntracked work ending = (.error (.panic timeoutTooLong), store)) := by
  by_cases fits : store.config.initialTimeout.Fits
  · have begins := (runUntracked_of_fits (engineTimeout_of_fits fits) work ending).1
    exact ⟨iff_of_true ⟨_, begins⟩ fits, fun long => absurd fits long⟩
  · have givesUp := runUntracked_of_long (engineTimeout_of_not_fits fits) work ending
    refine ⟨iff_of_false ?_ fits, fun _ => givesUp⟩
    rintro ⟨outcome, begins⟩
    rw [givesUp] at begins
    cases begins

end Store

/-- **Which of the accepted timeouts can be used.** Take settings for a store in memory that are
accepted. If the engine has room for their usual waiting time, the store is opened, and the waiting
time in force is the whole milliseconds of that of the settings; otherwise the program gives up.
So the store is opened with a waiting time in force exactly if that of the settings is usable. And
an untracked transaction of the store, whatever was done with the store before, begins exactly if
the engine has room for the waiting time for the first data; otherwise the program gives up. -/
theorem accepted_timeout_usable_iff (files : FileTree) (locks : Locks) (config : Config)
    (ids : IdSource) (now : Int) (inMemory : config.path = none)
    (accepted : config.validate = .ok ()) :
    let opening := Store.openIn files locks config ids now
    (config.busyTimeout.Fits → ∃ store, opening.result = .ok store ∧
      store.busyTimeout = config.busyTimeout.milliseconds) ∧
    (¬config.busyTimeout.Fits → opening.result = .error (.panic Store.timeoutTooLong)) ∧
    ((∃ store, opening.result = .ok store ∧ store.busyTimeout ≠ 0) ↔
      config.busyTimeout.Usable) ∧
    (∀ store, opening.result = .ok store → ∀ (uses : List Store.Use) {α : Type} (work : Work α)
        (ending : α → Ending),
      let ran := (store.useAll uses).runUntracked work ending
      ((∃ outcome, ran.1 = .ok outcome) ↔ config.initialTimeout.Fits) ∧
      (¬config.initialTimeout.Fits →
        ran = (.error (.panic Store.timeoutTooLong), store.useAll uses))) := by
  intro opening
  have opens := Store.openIn_of_fits files locks ids now inMemory accepted
  have givesUp := Store.openIn_of_not_fits files locks ids now inMemory accepted
  refine ⟨fun fits => ?_, givesUp, ?_, fun store opened uses α work ending => ?_⟩
  · obtain ⟨store, opened, _, waiting⟩ := opens fits
    exact ⟨store, opened, waiting⟩
  · rw [Timeout.usable_iff]
    by_cases fits : config.busyTimeout.Fits
    · obtain ⟨store, opened, _, waiting⟩ := opens fits
      rw [← waiting]
      constructor
      · rintro ⟨other, same, inForce⟩
        cases opened.symm.trans same
        exact ⟨fits, inForce⟩
      · exact fun usable => ⟨store, opened, usable.2⟩
    · refine iff_of_false ?_ fun usable => fits usable.1
      rintro ⟨store, opened, _⟩
      cases (givesUp fits).symm.trans opened
  · have settings : store.config = config := by
      by_cases fits : config.busyTimeout.Fits
      · obtain ⟨other, same, settings, _⟩ := opens fits
        cases opened.symm.trans same
        exact settings
      · cases (givesUp fits).symm.trans opened
    have later := ((store.settings_useAll uses).1.trans settings)
    rw [← later]
    exact (store.useAll uses).runUntracked_begins_iff work ending

/-- With a millisecond as waiting time a store is opened, and waits for it. -/
theorem one_millisecond_is_in_force :
    let config : Config := { Config.inMemory with busyTimeout := .ofMilliseconds 1 }
    config.path = none ∧ config.validate = .ok () ∧
      ∃ store, (Store.openIn .empty .none config default 0).result = .ok store ∧
        store.busyTimeout ≠ 0 := by
  intro config
  have accepted : config.validate = .ok () := by decide
  have usable : config.busyTimeout.Usable := ⟨by decide, by decide⟩
  exact ⟨rfl, accepted,
    (accepted_timeout_usable_iff .empty .none config default 0 rfl accepted).2.2.1.2 usable⟩

/-- Settings with a timeout of half a millisecond are accepted, and no waiting time is in force;
settings with timeouts of as many milliseconds as take 32 bits are accepted, and the program gives
up when the store is opened, or when its first untracked transaction is begun. -/
theorem accepted_timeouts_are_of_no_use :
    let brief : Config := { Config.inMemory with busyTimeout := .ofMicroseconds 500 }
    let long : Config := { Config.inMemory with busyTimeout := .ofMilliseconds Bounds.signed32 }
    let longAtFirst : Config :=
      { Config.inMemory with initialTimeout := .ofMilliseconds Bounds.signed32 }
    let opening := fun config => (Store.openIn .empty .none config default 0).result
    (brief.validate = .ok () ∧ ∃ store, opening brief = .ok store ∧ store.busyTimeout = 0) ∧
    (long.validate = .ok () ∧ opening long = .error (.panic Store.timeoutTooLong)) ∧
    (longAtFirst.validate = .ok () ∧ ∃ store, opening longAtFirst = .ok store ∧
      (Service.ensureInitialData store).1 = .error (.panic Store.timeoutTooLong)) := by
  intro brief long longAtFirst opening
  have tooLong : ¬(Timeout.ofMilliseconds Bounds.signed32).Fits := by unfold Timeout.Fits; decide
  obtain ⟨first, briefOpened, _, waiting⟩ :=
    Store.openIn_of_fits .empty .none default 0 (show brief.path = none from rfl)
      (by decide) (by unfold Timeout.Fits; decide)
  have refused : opening long = .error (.panic Store.timeoutTooLong) :=
    Store.openIn_of_not_fits .empty .none default 0 rfl (by decide) tooLong
  obtain ⟨second, opened, settings, _⟩ :=
    Store.openIn_of_fits .empty .none default 0 (show longAtFirst.path = none from rfl)
      (by decide) (by unfold Timeout.Fits; decide)
  have givesUp : (second.runUntracked Graph.seed.run Transaction.ending).1 =
      .error (.panic Store.timeoutTooLong) := by
    rw [(second.runUntracked_begins_iff _ _).2 (by rw [settings]; exact tooLong)]
  refine ⟨⟨by decide, first, briefOpened, waiting.trans (by decide)⟩, ⟨by decide, refused⟩,
    by decide, second, opened, ?_⟩
  rw [Service.ensureInitialData, Store.transactUntracked]
  generalize second.runUntracked Graph.seed.run Transaction.ending = ran at givesUp ⊢
  rcases ran with ⟨result, after⟩
  cases givesUp
  rfl

end ScopedStore
