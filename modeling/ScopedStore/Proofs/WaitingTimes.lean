import Mathlib.Data.List.Induction
import ScopedStore.Domain.Service
import ScopedStore.Proofs.Delivery

/-!
# The waiting time that is in force

An untracked transaction waits for a locked file as long as the setting for the first data allows,
and puts the usual waiting time back when it is over. So one of two waiting times is in force
whenever a store is at rest. Nothing but an untracked transaction changes which one it is, and that
leaves the usual one behind, whether it was refused, failed or was committed
(`Store.busyTimeout_use`).

The exception is an untracked transaction whose work gives up (`Store.GivesUp`). The usual time is
put back behind the work, and a program that gives up does not get there. The waiting time for the
first data is then in force for all that follows, until another untracked transaction has put the
usual one back (`Store.busyTimeout_useAll`).
-/

set_option autoImplicit false

namespace ScopedStore

/-! ## Settings that the engine keeps -/

/-- The timeout is whole milliseconds, one at least and no more than the engine has room for. -/
structure Timeout.Whole (timeout : Timeout) : Prop where
  whole : .ofMilliseconds timeout.milliseconds = timeout
  positive : 0 < timeout.milliseconds
  fits : timeout.milliseconds < Bounds.signed32

/-- Both timeouts of the settings are of this kind. -/
structure Config.WholeTimeouts (config : Config) : Prop where
  busy : config.busyTimeout.Whole
  initial : config.initialTimeout.Whole

namespace Store

theorem engineTimeout_of_whole {timeout : Timeout} (whole : timeout.Whole) :
    engineTimeout timeout = .ok timeout.milliseconds := by
  rw [engineTimeout, Timeout.forEngine?, if_pos whole.fits]

/-- **A store opens with the usual waiting time in force.** -/
theorem busyTimeout_openIn {files : FileTree} {locks : Locks} {config : Config} {ids : IdSource}
    {now : Int} {store : Store} (whole : config.WholeTimeouts)
    (opened : (openIn files locks config ids now).result = .ok store) :
    store.config = config ∧ store.busyTimeout = config.busyTimeout.milliseconds := by
  revert opened
  rw [openIn, engineTimeout_of_whole whole.busy]
  cases config.validate with
  | error cause => rintro ⟨⟩
  | ok valid =>
      dsimp only
      split
      · rintro ⟨⟩
        exact ⟨rfl, rfl⟩
      · rintro ⟨⟩
      · rintro ⟨⟩

/-! ## Uses of a store -/

/-- Something that is done with an open store: a call, or the setting up of the first data. -/
inductive Use : Type 1
  | call (call : Call)
  | ensureInitialData

/-- The store runs a transaction that records nothing. -/
def Use.Untracked : Use → Prop
  | call (.untracked _ _) | ensureInitialData => True
  | call _ => False

/-- The store after a use. -/
def use (store : Store) : Use → Store
  | .call call => store.act call
  | .ensureInitialData => (Service.ensureInitialData store).2

/-- The store after some uses. -/
def useAll (store : Store) (uses : List Use) : Store := uses.foldl use store

theorem useAll_concat (store : Store) (past : List Use) (use : Use) :
    store.useAll (past ++ [use]) = (store.useAll past).use use := by
  rw [useAll, List.foldl_append]
  rfl

/-- The work of a transaction was done, and gave up. -/
def Outcome.GaveUp {α : Type} (ending : α → Ending) : Outcome α → Prop
  | refused _ => False
  | ended value _ => ending value = .unwind

/-- The use is an untracked transaction whose work gives up. -/
def GivesUp (store : Store) : Use → Prop
  | .call (.untracked work ending) =>
      ∃ outcome, (store.runUntracked work ending).1 = .ok outcome ∧ outcome.GaveUp ending
  | _ => False

theorem GivesUp.untracked {store : Store} {use : Use} (gaveUp : store.GivesUp use) :
    use.Untracked := by
  cases use with
  | ensureInitialData => trivial
  | call call =>
      cases call with
      | untracked work ending => trivial
      | _ => exact gaveUp.elim

/-- The last untracked transaction of some uses is one whose work gave up. -/
def LastGaveUp (first : Store) (past : List Use) : Prop :=
  ∃ before use after, past = before ++ use :: after ∧ (first.useAll before).GivesUp use ∧
    ∀ later ∈ after, ¬later.Untracked

theorem lastGaveUp_concat (first : Store) (past : List Use) (use : Use) :
    first.LastGaveUp (past ++ [use]) ↔
      (first.useAll past).GivesUp use ∨ ¬use.Untracked ∧ first.LastGaveUp past := by
  constructor
  · rintro ⟨before, one, after, split, gaveUp, quiet⟩
    rcases List.eq_nil_or_concat' after with rfl | ⟨rest, last, rfl⟩
    · obtain ⟨rfl, same⟩ := List.append_inj' split rfl
      obtain rfl := List.singleton_inj.1 same
      exact .inl gaveUp
    · rw [← List.cons_append, ← List.append_assoc] at split
      obtain ⟨rfl, same⟩ := List.append_inj' split rfl
      obtain rfl := List.singleton_inj.1 same
      refine .inr ⟨quiet use List.mem_concat_self, before, one, rest, rfl, gaveUp, ?_⟩
      exact fun later member => quiet later (List.mem_append_left _ member)
  · rintro (gaveUp | ⟨tracked, before, one, after, rfl, gaveUp, quiet⟩)
    · exact ⟨past, use, [], rfl, gaveUp, nofun⟩
    · refine ⟨before, one, after ++ [use], by simp, gaveUp, fun later member => ?_⟩
      rcases List.mem_append.1 member with earlier | last
      · exact quiet later earlier
      · obtain rfl := List.mem_singleton.1 last
        exact tracked

/-! ## One use -/

variable {α : Type} {store : Store}

/-- A tracked transaction leaves the settings and the waiting time as they are. -/
theorem busyTimeout_runTracked (store : Store) (work : Work α) (ending : α → Ending) :
    (store.runTracked work ending).2.config = store.config ∧
      (store.runTracked work ending).2.busyTimeout = store.busyTimeout := by
  obtain ⟨database, ids, log, left⟩ := store.attempt_store true work ending
  rw [runTracked_eq, left]
  exact ⟨rfl, rfl⟩

theorem busyTimeout_restoreTimeout (whole : store.config.WholeTimeouts) :
    store.restoreTimeout.config = store.config ∧
      store.restoreTimeout.busyTimeout = store.config.busyTimeout.milliseconds := by
  rw [restoreTimeout, engineTimeout_of_whole whole.busy]
  exact ⟨rfl, rfl⟩

/-- **An untracked transaction leaves the usual waiting time behind, unless its work gives up**;
then it leaves the one for the first data. -/
theorem busyTimeout_runUntracked (whole : store.config.WholeTimeouts) (work : Work α)
    (ending : α → Ending) :
    ∃ outcome, (store.runUntracked work ending).1 = .ok outcome ∧
      (store.runUntracked work ending).2.config = store.config ∧
      (outcome.GaveUp ending → (store.runUntracked work ending).2.busyTimeout =
        store.config.initialTimeout.milliseconds) ∧
      (¬outcome.GaveUp ending → (store.runUntracked work ending).2.busyTimeout =
        store.config.busyTimeout.milliseconds) := by
  let waiting : Store := { store with busyTimeout := store.config.initialTimeout.milliseconds }
  obtain ⟨database, ids, log, left⟩ := waiting.attempt_store false work ending
  have config : (waiting.attempt false work ending).2.config = store.config := by rw [left]
  have short : (waiting.attempt false work ending).2.busyTimeout =
      store.config.initialTimeout.milliseconds := by rw [left]
  rw [runUntracked, engineTimeout_of_whole whole.initial]
  dsimp only
  generalize waiting.attempt false work ending = ran at config short ⊢
  obtain ⟨outcome, after⟩ := ran
  have restored : after.restoreTimeout.config = store.config ∧
      after.restoreTimeout.busyTimeout = store.config.busyTimeout.milliseconds := by
    rw [← config] at whole ⊢
    exact busyTimeout_restoreTimeout whole
  refine ⟨outcome, ?_⟩
  cases outcome with
  | refused cause => exact ⟨rfl, restored.1, False.elim, fun _ => restored.2⟩
  | ended value changes =>
      rw [Outcome.GaveUp]
      dsimp only
      cases ending value with
      | unwind => exact ⟨rfl, config, fun _ => short, fun other => absurd rfl other⟩
      | keep | discard =>
          refine ⟨rfl, restored.1, ?_, fun _ => restored.2⟩
          rintro ⟨⟩

/-- **Setting up the first data puts the usual waiting time back**, whatever becomes of it. -/
theorem busyTimeout_ensureInitialData (whole : store.config.WholeTimeouts) :
    (Service.ensureInitialData store).2.config = store.config ∧
      (Service.ensureInitialData store).2.busyTimeout = store.config.busyTimeout.milliseconds := by
  obtain ⟨outcome, answer, config, _, restored⟩ :=
    busyTimeout_runUntracked whole Graph.seed.run Transaction.ending
  have fails : ¬outcome.GaveUp Transaction.ending := by
    rcases outcome with cause | ⟨_ | value, changes⟩
    · exact id
    · exact nofun
    · exact nofun
  have usual := restored fails
  rw [Service.ensureInitialData, transactUntracked]
  generalize store.runUntracked Graph.seed.run Transaction.ending = ran at answer config usual ⊢
  obtain ⟨result, after⟩ := ran
  subst answer
  dsimp only
  rcases outcome.answer with cause | ⟨_ | client, changes⟩
  · exact ⟨config, usual⟩
  · exact ⟨config, usual⟩
  · exact ⟨config, usual⟩

theorem busyTimeout_withBus (store : Store) (result : Except BusError Bus) :
    (store.withBus result).config = store.config ∧
      (store.withBus result).busyTimeout = store.busyTimeout := by
  cases result <;> exact ⟨rfl, rfl⟩

/-- **What one use does to the waiting time.** -/
theorem busyTimeout_use (whole : store.config.WholeTimeouts) (use : Use) :
    (store.use use).config = store.config ∧
      (¬use.Untracked → (store.use use).busyTimeout = store.busyTimeout) ∧
      (store.GivesUp use →
        (store.use use).busyTimeout = store.config.initialTimeout.milliseconds) ∧
      (use.Untracked → ¬store.GivesUp use →
        (store.use use).busyTimeout = store.config.busyTimeout.milliseconds) := by
  have still (after : Store) (same : after.config = store.config ∧
      after.busyTimeout = store.busyTimeout) :
      after.config = store.config ∧ (¬False → after.busyTimeout = store.busyTimeout) ∧
        (False → after.busyTimeout = store.config.initialTimeout.milliseconds) ∧
        (False → ¬False → after.busyTimeout = store.config.busyTimeout.milliseconds) :=
    ⟨same.1, fun _ => same.2, False.elim, False.elim⟩
  cases use with
  | ensureInitialData =>
      obtain ⟨config, usual⟩ := busyTimeout_ensureInitialData whole
      exact ⟨config, fun tracked => absurd trivial tracked, False.elim, fun _ _ => usual⟩
  | call call =>
      cases call with
      | tracked work ending => exact still _ (store.busyTimeout_runTracked work ending)
      | untracked work ending =>
          obtain ⟨outcome, answer, config, short, usual⟩ :=
            busyTimeout_runUntracked whole work ending
          refine ⟨config, fun tracked => absurd trivial tracked, ?_, fun _ others => usual ?_⟩
          · rintro ⟨other, given, gaveUp⟩
            obtain rfl : outcome = other := Except.ok.inj (answer.symm.trans given)
            exact short gaveUp
          · exact fun gaveUp => others ⟨outcome, answer, gaveUp⟩
      | openChannel spelling label => exact still _ (store.busyTimeout_withBus _)
      | register spelling sink =>
          refine still _ ?_
          rw [use, act]
          split
          · exact store.busyTimeout_withBus _
          · exact ⟨rfl, rfl⟩
      | unregister spelling => exact still _ (store.busyTimeout_withBus _)
      | dropReceiver label => exact still _ ⟨rfl, rfl⟩
      | meanwhile database contention now => exact still _ ⟨rfl, rfl⟩

/-! ## All uses -/

/-- **What all uses do to the waiting time**: the last untracked transaction decides. -/
theorem busyTimeout_useAll {first : Store} (whole : first.config.WholeTimeouts)
    (usual : first.busyTimeout = first.config.busyTimeout.milliseconds) (uses : List Use) :
    (first.useAll uses).config = first.config ∧
      (first.LastGaveUp uses →
        (first.useAll uses).busyTimeout = first.config.initialTimeout.milliseconds) ∧
      (¬first.LastGaveUp uses →
        (first.useAll uses).busyTimeout = first.config.busyTimeout.milliseconds) := by
  induction uses using List.reverseRecOn with
  | nil => exact ⟨rfl, fun ⟨_, _, _, split, _⟩ => by simp at split, fun _ => usual⟩
  | append_singleton past use ih =>
      obtain ⟨config, short, long⟩ := ih
      have step := busyTimeout_use (config ▸ whole) use
      rw [config] at step
      obtain ⟨same, still, gaveUp, restored⟩ := step
      rw [useAll_concat, lastGaveUp_concat]
      by_cases untracked : use.Untracked
      · refine ⟨same, ?_, fun others => restored untracked fun gives => others (.inl gives)⟩
        rintro (gives | ⟨tracked, _⟩)
        · exact gaveUp gives
        · exact absurd untracked tracked
      · rw [still untracked]
        refine ⟨same, ?_, fun others => long fun last => others (.inr ⟨untracked, last⟩)⟩
        rintro (gives | ⟨_, last⟩)
        · exact absurd gives.untracked untracked
        · exact short last

end Store

/-- **The usual waiting time is put back behind every untracked transaction but one whose work
gives up.** Take a store that was opened with timeouts of whole milliseconds, and use it in any
way. If the last untracked transaction was one whose work gave up, the waiting time for the first
data is in force; otherwise the one in force is exactly that of the settings. So it is that of the
settings after every use, as long as no work of an untracked transaction gives up: tracked
transactions may end in any way, untracked ones may be refused, fail or be committed, and setting
up the first data may do so too. -/
theorem waiting_time_put_back (files : FileTree) (locks : Locks) (config : Config) (ids : IdSource)
    (now : Int) (store : Store) (whole : config.WholeTimeouts)
    (opened : (Store.openIn files locks config ids now).result = .ok store)
    (uses : List Store.Use) :
    (store.useAll uses).config = config ∧
    (store.LastGaveUp uses →
      .ofMilliseconds (store.useAll uses).busyTimeout = config.initialTimeout) ∧
    (¬store.LastGaveUp uses →
      .ofMilliseconds (store.useAll uses).busyTimeout = config.busyTimeout) ∧
    ((∀ past use, past ++ [use] <+: uses → ¬(store.useAll past).GivesUp use) →
      ∀ past, past <+: uses →
        .ofMilliseconds (store.useAll past).busyTimeout = config.busyTimeout) := by
  obtain ⟨rfl, usual⟩ := Store.busyTimeout_openIn whole opened
  obtain ⟨same, short, long⟩ := Store.busyTimeout_useAll whole usual uses
  refine ⟨same, fun last => ?_, fun others => ?_, fun none past within => ?_⟩
  · rw [short last]
    exact whole.initial.whole
  · rw [long others]
    exact whole.busy.whole
  · obtain ⟨_, _, long⟩ := Store.busyTimeout_useAll whole usual past
    rw [long]
    · exact whole.busy.whole
    · rintro ⟨before, use, after, rfl, gaveUp, _⟩
      refine none before use (List.IsPrefix.trans ?_ within) gaveUp
      exact ⟨after, by simp⟩

theorem wholeTimeouts_inMemory : Config.inMemory.WholeTimeouts where
  busy := ⟨by decide, by decide, by decide⟩
  initial := ⟨by decide, by decide, by decide⟩

/-- A tab is stored without a record of it, a transaction that records its changes gives up, and
the first data is set up: the usual waiting time is in force. -/
theorem usual_waiting_time_behind_first_data :
    let insert := Work.ask (.insert .tab (Tab.new "t" ""))
    let uses : List Store.Use :=
      [.call (.untracked insert fun _ => .keep), .call (.tracked insert fun _ => .unwind),
        .ensureInitialData]
    ∃ store, (Store.openIn .empty .none .inMemory default 0).result = .ok store ∧
      ¬store.LastGaveUp uses ∧
      .ofMilliseconds (store.useAll uses).busyTimeout = Config.inMemory.busyTimeout := by
  intro insert uses
  obtain ⟨store, opened⟩ : ∃ store,
      (Store.openIn .empty .none .inMemory default 0).result = .ok store := ⟨_, rfl⟩
  have others : ¬store.LastGaveUp uses := by
    show ¬store.LastGaveUp ([.call (.untracked insert fun _ => .keep),
      .call (.tracked insert fun _ => .unwind)] ++ [.ensureInitialData])
    rw [Store.lastGaveUp_concat]
    rintro (gaveUp | ⟨tracked, _⟩)
    · exact gaveUp
    · exact tracked trivial
  exact ⟨store, opened, others, (waiting_time_put_back .empty .none .inMemory default 0 store
    wholeTimeouts_inMemory opened uses).2.2.1 others⟩

/-- An untracked transaction whose work gives up leaves two seconds in force, though the settings
say five; and a tracked transaction after it still waits for two seconds only. -/
theorem short_waiting_time_left_behind :
    let givesUp : Store.Use := .call (.untracked (.done ()) fun _ => .unwind)
    let goesOn : Store.Use := .call (.tracked (.done ()) fun _ => .keep)
    ∃ store, (Store.openIn .empty .none .inMemory default 0).result = .ok store ∧
      Config.inMemory.WholeTimeouts ∧
      (store.useAll [givesUp]).busyTimeout = 2000 ∧
      (store.useAll [givesUp, goesOn]).busyTimeout = 2000 ∧
      .ofMilliseconds 2000 ≠ Config.inMemory.busyTimeout := by
  intro givesUp goesOn
  obtain ⟨store, opened, short⟩ : ∃ store,
      (Store.openIn .empty .none .inMemory default 0).result = .ok store ∧
        (store.useAll [givesUp]).busyTimeout = 2000 := ⟨_, rfl, rfl⟩
  refine ⟨store, opened, wholeTimeouts_inMemory, short, ?_, by decide⟩
  exact ((store.useAll [givesUp]).busyTimeout_runTracked _ _).2.trans short

end ScopedStore
