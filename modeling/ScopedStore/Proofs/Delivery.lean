import Mathlib.Data.List.Induction
import ScopedStore.Proofs.Bus
import ScopedStore.Proofs.Pending
import ScopedStore.Proofs.SideBySide
import ScopedStore.Proofs.Survivors

/-!
# Exactly what is committed is delivered

The receiver of a channel gets the sets of changes that were committed while the channel was
registered, in the order of their transactions, and nothing else. What is done with a store and
its bus is a list of calls (`Store.Call`), and what a channel has to hear of them is told without
the receivers (`Store.heard`): each tracked transaction that was committed with changes, once for
each id under which the channel is registered at that time. The receivers that are there after
some calls have got exactly that (`Store.told_actAll`).

Each of these sets is in order, with one change of each object, and it is handed over when the
store shows what was committed already (`Store.handed_of_committed`). A transaction that fails,
that only reads, or that records nothing leaves the bus as it is.
-/

set_option autoImplicit false

namespace ScopedStore

/-! ## Work that only reads -/

/-- The deed adds to the pending changes. -/
def Deed.Adds : Deed → Prop
  | .recorded _ | .wrote _ => True
  | .quiet | .opened | .kept | .discarded => False

namespace Frames

/-- Nothing is recorded in any frame. -/
def Blank (frames : List Frame) : Prop := ∀ frame ∈ frames, frame = ∅

theorem Blank.overlay {frames : List Frame} (blank : Blank frames) : overlay frames = ∅ := by
  induction frames with
  | nil => rfl
  | cons top below ih =>
      obtain ⟨rfl, rest⟩ := List.forall_mem_cons.1 blank
      rw [Frames.overlay, ih rest]
      rfl

end Frames

namespace Handle

/-- What adds nothing leaves the frames blank. -/
theorem Does.blank {deed : Deed} {before after : Handle} (does : Does deed before after)
    (nothing : ¬deed.Adds) (blank : Frames.Blank before.frames) : Frames.Blank after.frames := by
  cases does with
  | quiet ids log => exact blank
  | recorded _ change => exact absurd trivial nothing
  | wrote fits => exact absurd trivial nothing
  | opened =>
      rw [frames_openScope]
      revert blank
      cases before.frames with
      | nil => exact id
      | cons top below => exact fun blank => List.forall_mem_cons.2 ⟨rfl, blank⟩
  | kept opened =>
      rw [frames_kept]
      revert blank
      match before.frames with
      | [] | [_] => exact id
      | top :: parent :: below =>
          intro blank
          obtain ⟨rfl, rfl, rest⟩ :
              top = ∅ ∧ parent = ∅ ∧ ∀ frame ∈ below, frame = ∅ := by
            simpa [Frames.Blank] using blank
          exact List.forall_mem_cons.2 ⟨rfl, rest⟩
  | discarded opened =>
      rw [frames_dropped]
      revert blank
      match before.frames with
      | [] | [_] => exact id
      | top :: parent :: below => exact fun blank => (List.forall_mem_cons.1 blank).2

/-- **Where nothing was added nothing is pending.** -/
theorem allPending_of_idle {handle : Handle} (lockstep : handle.Lockstep)
    (blank : Frames.Blank handle.frames) (moves : List Move)
    (idle : ∀ deed ∈ handle.history moves, ¬deed.Adds) : (handle.play moves).allPending = ∅ := by
  have still := lockstep.play_induction
    (motive := fun past handle => (∀ deed ∈ past, ¬deed.Adds) → Frames.Blank handle.frames)
    (fun _ does blank idle => does.blank (idle _ List.mem_concat_self)
      (blank fun deed member => idle deed (List.mem_append_left _ member)))
    (fun _ => blank) moves idle
  rw [allPending_eq, still.overlay]

theorem blank_start (content : Database) (tracked : Bool) (ids : IdSource) (now : Int) :
    Frames.Blank (start content tracked ids now).openScope.frames := by
  cases tracked with
  | true => simp [Frames.Blank, frames, openScope, start, note, ChangeStack.frames,
      ChangeStack.openScope, ChangeStack.empty]
  | false => simp [Frames.Blank, frames, openScope, start, note]

end Handle

namespace Store

variable {α : Type} {store : Store} {work : Work α} {ending : α → Ending}

/-! ## One transaction -/

/-- **The changes that are committed are in order**: there is one of each changed object. -/
theorem changes_increasing (store : Store) (tracked : Bool) (work : Work α) (ending : α → Ending) :
    (store.attempt tracked work ending).1.changes.Pairwise
      fun earlier later => compare earlier.ref later.ref = .lt := by
  by_cases committed : (store.attempt tracked work ending).1.Committed ending
  · obtain ⟨⟨value, outcome⟩, _⟩ := store.attempt_of_committed tracked work ending committed
    rw [outcome]
    have increasing := Handle.values_increasing_play store.database tracked store.ids store.now
      (.openScope :: work.moves (Handle.start store.database tracked store.ids store.now).openScope)
    rw [Handle.play_cons, Handle.move, ← work.run_eq_play] at increasing
    exact increasing
  · rw [changes_of_failed committed]
    exact .nil

/-- Work that adds nothing commits no changes. -/
theorem changes_of_idle (tracked : Bool)
    (idle :
      let start := (Handle.start store.database tracked store.ids store.now).openScope
      ∀ deed ∈ start.history (work.moves start), ¬deed.Adds) :
    (store.attempt tracked work ending).1.changes = [] := by
  by_cases committed : (store.attempt tracked work ending).1.Committed ending
  · obtain ⟨⟨value, outcome⟩, _⟩ := store.attempt_of_committed tracked work ending committed
    have lockstep := (Handle.Does.opened _).lockstep
      (Handle.lockstep_start store.database tracked store.ids store.now)
    have nothing := Handle.allPending_of_idle lockstep (Handle.blank_start _ _ _ _) _ idle
    rw [outcome, work.run_eq_play, nothing]
    rfl
  · exact changes_of_failed committed

/-- A committed transaction was disturbed by nobody. -/
theorem contention_of_committed {tracked : Bool}
    (committed : (store.attempt tracked work ending).1.Committed ending) :
    store.contention = .free := by
  revert committed
  rw [attempt_eq]
  cases held : store.contention with
  | free => exact fun _ => rfl
  | writing =>
      rw [if_pos rfl]
      exact False.elim
  | reading =>
      rw [if_neg nofun]
      dsimp only
      cases kind : ending (work.run _).1 with
      | keep =>
          dsimp only [commit, absorb]
          rw [if_pos held]
          rintro ⟨_, _, failed⟩
          cases failed
      | discard | unwind =>
          rintro ⟨keeps, _⟩
          rw [kind] at keeps
          cases keeps

/-- **A reader sees what is committed.** -/
theorem reading_eq (free : store.contention = .free) :
    store.reading.tabs = Handle.lift (Repository.count store.database .tab) := by
  have given : (Work.run (Transaction.ask (.count .tab)).run
      (Handle.start store.database true store.ids store.now).openScope).1 =
        Handle.lift (Repository.count store.database .tab) := rfl
  rw [reading, countTabs, attempt_eq]
  dsimp only
  rw [given, free, if_neg (by decide)]
  cases Handle.lift (Repository.count store.database .tab) with
  | error cause => rfl
  | ok tabs =>
      dsimp only [Transaction.ending, commit, absorb]
      rw [if_neg (by decide)]
      rfl

/-- A tracked transaction does nothing to the bus but publish its changes there. -/
theorem bus_runTracked (store : Store) (work : Work α) (ending : α → Ending) :
    (store.runTracked work ending).2.bus =
      (store.bus.publish (store.attempt true work ending).2.reading
        (store.runTracked work ending).1.changes).1 := by
  have same : (store.attempt true work ending).2.bus = store.bus := by
    obtain ⟨_, _, _, after⟩ := store.attempt_store true work ending
    rw [after]
  rw [runTracked_eq, ← same]
  rfl

/-- **A committed transaction hands its changes to every sink that is registered**, when its rows
are in the store already. What a sink finds there is what that store shows. -/
theorem handed_of_committed (committed : (store.runTracked work ending).1.Committed ending) :
    let last := (work.run (Handle.start store.database true store.ids store.now).openScope).2
    let changes := (store.runTracked work ending).1.changes
    (store.runTracked work ending).2.database = last.content ∧ changes = last.allPending.values ∧
      (changes ≠ [] → ∃ shown : Store,
        shown.database = last.content ∧ shown.contention = .free ∧
        shown.reading.tabs = Handle.lift (Repository.count last.content .tab) ∧
        Bus.Hands shown.reading changes store.bus store.bus.sinks.values
          (store.runTracked work ending).2.bus) := by
  intro last changes
  obtain ⟨⟨value, outcome⟩, content⟩ := runTracked_of_committed committed
  have same : changes = last.allPending.values := by
    have all := congrArg Outcome.changes outcome
    exact all
  refine ⟨content, same, fun some => ?_⟩
  obtain ⟨database, ids, log, after⟩ := store.attempt_store true work ending
  rw [runTracked_eq] at committed content
  let shown := (store.attempt true work ending).2
  have free : shown.contention = .free :=
    (congrArg (·.contention) after).trans (contention_of_committed committed)
  refine ⟨shown, content, free, ?_, ?_⟩
  · rw [reading_eq free]
    exact congrArg (fun database => Handle.lift (Repository.count database .tab)) content
  · rw [bus_runTracked]
    exact Bus.hands_publish _ store.bus some

/-- **Where nothing was changed, or nothing committed, nobody hears of it.** -/
theorem silent_of_nothing (store : Store) (work : Work α) (ending : α → Ending)
    (nothing : (store.runTracked work ending).1.changes = []) :
    (store.runTracked work ending).2.bus = store.bus := by
  rw [bus_runTracked, nothing, Bus.publish_nil]

/-- The caller gets the changes that were committed. -/
theorem runTracked_of_transact {work : Transaction α} {value : α} {changes : List Change}
    (given : (store.transact work).1 = .ok (value, changes)) :
    store.runTracked work.run Transaction.ending =
      (.ended (.ok value) (.ok changes), (store.transact work).2) := by
  rw [transact] at given ⊢
  revert given
  obtain ⟨_ | ⟨_ | result, _ | recorded⟩, after⟩ := store.runTracked work.run Transaction.ending
  · exact nofun
  · exact nofun
  · exact nofun
  · exact nofun
  · rintro ⟨⟩
    rfl

/-- An untracked transaction does nothing to the bus. -/
theorem bus_runUntracked (store : Store) (work : Work α) (ending : α → Ending) :
    (store.runUntracked work ending).2.bus = store.bus := by
  cases fits : engineTimeout store.config.initialTimeout with
  | error refusal => rw [runUntracked_of_long fits]
  | ok waiting =>
      obtain ⟨_, _, left⟩ := runUntracked_of_fits fits work ending
      obtain ⟨_, _, _, after⟩ :=
        attempt_store { store with busyTimeout := waiting } false work ending
      rw [left, after]

/-! ## Calls -/

/-- Something that is done with a store and its bus, or happens to it meanwhile: others have changed
the file, or begin or end their use of it, and time passes. What is registered is a new channel, or
a recorder, a reader or a channel that was opened before. -/
inductive Call : Type 1
  | tracked {α : Type} (work : Work α) (ending : α → Ending)
  | untracked {α : Type} (work : Work α) (ending : α → Ending)
  | openChannel (spelling label : String)
  | register (spelling : String) (sink : Sink)
  | unregister (spelling : String)
  | dropReceiver (label : String)
  | meanwhile (database : Database) (contention : Contention) (now : Int)

/-- The call registers a channel that is registered already. -/
def Call.Again (bus : Bus) : Call → Prop
  | .register _ (.channel label number) => bus.registrations label number ≠ 0
  | _ => False

/-- The store with a new bus, if there is one. -/
def withBus (store : Store) : Except BusError Bus → Store
  | .ok bus => { store with bus }
  | .error _ => store

/-- The store after a call. -/
def act (store : Store) : Call → Store
  | .tracked work ending => (store.runTracked work ending).2
  | .untracked work ending => (store.runUntracked work ending).2
  | .openChannel spelling label => store.withBus (store.bus.registerChannel spelling label)
  | .register spelling sink =>
      if store.bus.Knows sink then store.withBus (store.bus.register spelling sink) else store
  | .unregister spelling => store.withBus (store.bus.unregister spelling)
  | .dropReceiver label => { store with bus := store.bus.dropReceiver label }
  | .meanwhile database contention now => { store with database, contention, now }

/-- The store after some calls. -/
def actAll (store : Store) (calls : List Call) : Store := calls.foldl act store

/-- The changes that a call has committed and recorded, and has given back. -/
def committedBy (store : Store) : Call → List Change
  | .tracked work ending => (store.runTracked work ending).1.changes
  | _ => []

/-- What a channel has to hear of a call: the committed changes, if there are any, once for each id
under which it is registered. -/
def hears (store : Store) (label : String) (number : Nat) (call : Call) : List (List Change) :=
  if (store.committedBy call).isEmpty then []
  else .replicate (store.bus.registrations label number) (store.committedBy call)

/-- What a channel has to hear of some calls, in order. -/
def heard (store : Store) (label : String) (number : Nat) : List Call → List (List Change)
  | [] => []
  | call :: rest => store.hears label number call ++ (store.act call).heard label number rest

theorem heard_append (store : Store) (label : String) (number : Nat) (first second : List Call) :
    store.heard label number (first ++ second) =
      store.heard label number first ++ (store.actAll first).heard label number second := by
  induction first generalizing store with
  | nil => rfl
  | cons call rest ih =>
      rw [List.cons_append, heard, heard, ih, List.append_assoc]
      rfl

theorem enrols_withBus {again : Prop} {result : Except BusError Bus}
    (enrols : ∀ bus, result = .ok bus → Bus.Enrols again store.bus bus) :
    Bus.Enrols again store.bus (store.withBus result).bus := by
  cases result with
  | error cause => exact .same rfl rfl
  | ok bus => exact enrols bus rfl

theorem receivers_withBus {result : Except BusError Bus}
    (same : ∀ bus, result = .ok bus → bus.receivers = store.bus.receivers) :
    (store.withBus result).bus.receivers = store.bus.receivers := by
  cases result with
  | error cause => rfl
  | ok bus => exact same bus rfl

/-- **A call enrols one sink at most**, or removes one. -/
theorem enrols_act (store : Store) (call : Call) :
    Bus.Enrols (call.Again store.bus) store.bus (store.act call).bus := by
  cases call with
  | tracked work ending =>
      rw [act, bus_runTracked]
      by_cases some : (store.runTracked work ending).1.changes = []
      · rw [some, Bus.publish_nil]
        exact .same rfl rfl
      · have hands := Bus.hands_publish (store.attempt true work ending).2.reading store.bus some
        exact .same hands.sinks hands.channels
  | untracked work ending =>
      rw [act, bus_runUntracked]
      exact .same rfl rfl
  | openChannel spelling label =>
      refine enrols_withBus fun bus registered => ?_
      obtain ⟨free, rfl⟩ := Bus.registerChannel_eq_ok registered
      exact .opened _ label free rfl rfl
  | register spelling sink =>
      rw [act]
      by_cases knows : store.bus.Knows sink
      · rw [if_pos knows]
        refine enrols_withBus fun bus registered => ?_
        obtain ⟨free, rfl⟩ := Bus.register_eq_ok registered
        refine .added _ sink free knows (fun label number channel => ?_) rfl rfl
        by_cases none : store.bus.registrations label number = 0
        · exact .inr (Bus.not_registered none)
        · exact .inl (channel ▸ none)
      · rw [if_neg knows]
        exact .same rfl rfl
  | unregister spelling =>
      refine enrols_withBus fun bus removed => ?_
      obtain rfl := Bus.unregister_eq_ok removed
      exact .removed _ rfl rfl
  | dropReceiver label => exact .same rfl rfl
  | meanwhile database contention now => exact .same rfl rfl

/-- **A receiver that is there after a call was there before, and has got what its channel has to
hear of the call**; or it is that of a new channel. -/
theorem receiver_act (store : Store) (call : Call) {label : String} {receiver : Receiver}
    (held : (store.act call).bus.receivers.get? label = some receiver) :
    (∃ before, store.bus.receivers.get? label = some before ∧
      receiver = before.receive (store.hears label before.number call)) ∨
    (receiver = ⟨store.bus.channels, []⟩ ∧ store.committedBy call = []) := by
  have kept (same : store.bus.receivers.get? label = some receiver)
      (nothing : store.committedBy call = []) :
      ∃ before, store.bus.receivers.get? label = some before ∧
        receiver = before.receive (store.hears label before.number call) := by
    refine ⟨receiver, same, ?_⟩
    rw [hears, nothing]
    simp [Receiver.receive]
  cases call with
  | tracked work ending =>
      rw [act, bus_runTracked] at held
      by_cases some : (store.runTracked work ending).1.changes = []
      · rw [some] at held
        exact .inl (kept held some)
      · have hands := Bus.hands_publish (store.attempt true work ending).2.reading store.bus some
        rw [hands.receivers, Option.map_eq_some_iff] at held
        obtain ⟨before, found, rfl⟩ := held
        refine .inl ⟨before, found, ?_⟩
        rw [hears, committedBy, if_neg (by simpa using some)]
        rfl
  | untracked work ending =>
      rw [act, bus_runUntracked] at held
      exact .inl (kept held rfl)
  | openChannel spelling opens =>
      rw [act] at held
      cases done : store.bus.registerChannel spelling opens with
      | error cause =>
          rw [done] at held
          exact .inl (kept held rfl)
      | ok bus =>
          rw [done] at held
          obtain ⟨_, rfl⟩ := Bus.registerChannel_eq_ok done
          rw [withBus, SortedMap.get?_insert] at held
          split at held
          · exact .inr ⟨(Option.some.inj held).symm, rfl⟩
          · exact .inl (kept held rfl)
  | register spelling sink =>
      rw [act] at held
      split at held
      · refine .inl (kept (receivers_withBus (fun bus registered => ?_) ▸ held) rfl)
        rw [(Bus.register_eq_ok registered).2]
      · exact .inl (kept held rfl)
  | unregister spelling =>
      refine .inl (kept (receivers_withBus (fun bus removed => ?_) ▸ held) rfl)
      rw [Bus.unregister_eq_ok removed]
  | dropReceiver gone =>
      rw [act, Bus.dropReceiver, SortedMap.get?_erase] at held
      split at held
      · cases held
      · exact .inl (kept held rfl)
  | meanwhile database contention now => exact .inl (kept held rfl)

/-- The receivers that are there after some calls have got what their channels had to hear of them,
and a channel that is not open yet has heard nothing. -/
structure Told (first : Store) (past : List Call) : Prop where
  known : (first.actAll past).bus.AllKnown
  unheard : ∀ label number, (first.actAll past).bus.channels ≤ number →
    first.heard label number past = []
  received : ∀ label receiver, (first.actAll past).bus.receivers.get? label = some receiver →
    receiver.received = first.heard label receiver.number past

variable {first : Store} {past : List Call}

theorem actAll_concat (first : Store) (past : List Call) (call : Call) :
    first.actAll (past ++ [call]) = (first.actAll past).act call := by
  rw [actAll, List.foldl_append]
  rfl

theorem heard_concat (first : Store) (label : String) (number : Nat) (past : List Call)
    (call : Call) :
    first.heard label number (past ++ [call]) =
      first.heard label number past ++ (first.actAll past).hears label number call := by
  rw [heard_append, heard, heard, List.append_nil]

/-- **A call keeps what was told in step with what is to be heard.** -/
theorem Told.act (told : first.Told past) (call : Call) : first.Told (past ++ [call]) := by
  have enrols := (first.actAll past).enrols_act call
  have unheard (label : String) (number : Nat)
      (beyond : (first.actAll past).bus.channels ≤ number) :
      first.heard label number (past ++ [call]) = [] := by
    rw [heard_concat, told.unheard label number beyond, hears,
      Bus.registrations_eq_zero told.known beyond]
    simp
  refine ⟨?_, fun label number beyond => ?_, fun label receiver held => ?_⟩
  · rw [actAll_concat]
    exact enrols.allKnown told.known
  · rw [actAll_concat] at beyond
    exact unheard label number (Nat.le_trans enrols.channels_le beyond)
  · rw [actAll_concat] at held
    obtain ⟨before, found, rfl⟩ | ⟨rfl, nothing⟩ := receiver_act _ call held
    · rw [Receiver.receive, heard_concat, ← told.received label before found]
    · exact (unheard label _ (Nat.le_refl _)).symm

/-- **Whoever is there has got exactly what there was to hear.** -/
theorem told_actAll (calls : List Call) : Told { store with bus := .empty } calls := by
  induction calls using List.reverseRecOn with
  | nil => exact ⟨nofun, fun _ _ _ => rfl, nofun⟩
  | append_singleton past call ih => exact ih.act call

/-- No channel is registered under two ids where none that is registered was registered again. -/
theorem single_actAll (calls : List Call)
    (once : ∀ past call, past ++ [call] <+: calls →
      ¬call.Again (actAll { store with bus := .empty } past).bus) :
    (actAll { store with bus := .empty } calls).bus.Single := by
  induction calls using List.reverseRecOn with
  | nil => exact nofun
  | append_singleton past call ih =>
      rw [actAll_concat]
      have earlier := ih fun before next within =>
        once before next (within.trans (List.prefix_append past [call]))
      exact (enrols_act _ call).single (told_actAll past).known earlier
        (once past call (List.prefix_refl _))

end Store

/-- **Sinks receive exactly what was committed.** Take a store with a new bus, and any calls. A
receiver that is there after them has got the changes that a tracked transaction committed, if
there were any, once for each id under which its channel was registered at that time, in the order
of the transactions, and nothing else; and a channel is registered under one id at most, unless one
that was registered is registered again.

The changes of a transaction are in the order of the addresses, one for each of them. If it was
committed they are what was pending at its end. They are handed to every registered sink, whoever
of the others has lost its receiver. At that time the database is already the one in which the work
ended, and what a sink finds in the store is a reading of this one. The caller gets the same
changes. A transaction that was not committed, one that only reads, and one that records nothing
leave the bus as it was. -/
theorem sinks_receive_what_was_committed :
    (∀ (store : Store) (calls : List Store.Call) (label : String),
      let first := { store with bus := .empty }
      (∀ receiver, (first.actAll calls).bus.receivers.get? label = some receiver →
        receiver.received = first.heard label receiver.number calls) ∧
      ((∀ past call, past ++ [call] <+: calls → ¬call.Again (first.actAll past).bus) →
        ∀ past number, past <+: calls →
          (first.actAll past).bus.registrations label number ≤ 1)) ∧
    (∀ (store : Store) {α : Type} (work : Work α) (ending : α → Ending),
      let start := (Handle.start store.database true store.ids store.now).openScope
      let last := (work.run start).2
      let ran := store.runTracked work ending
      let changes := ran.1.changes
      changes.Pairwise (fun earlier later => compare earlier.ref later.ref = .lt) ∧
      (ran.1.Committed ending →
        ran.2.database = last.content ∧ changes = last.allPending.values ∧
        (changes ≠ [] → ∃ shown : Store,
          shown.database = last.content ∧ shown.contention = .free ∧
          shown.reading.tabs = Handle.lift (Repository.count last.content .tab) ∧
          Bus.Hands shown.reading changes store.bus store.bus.sinks.values ran.2.bus)) ∧
      (¬ran.1.Committed ending → changes = [] ∧ ran.2.bus = store.bus) ∧
      ((∀ deed ∈ start.history (work.moves start), ¬deed.Adds) →
        changes = [] ∧ ran.2.bus = store.bus)) ∧
    (∀ (store : Store) {α : Type} (work : Transaction α) (value : α) (changes : List Change),
      (store.transact work).1 = .ok (value, changes) →
        store.runTracked work.run Transaction.ending =
          (.ended (.ok value) (.ok changes), (store.transact work).2)) ∧
    (∀ (store : Store) {α : Type} (work : Work α) (ending : α → Ending),
      (store.runUntracked work ending).2.bus = store.bus) := by
  refine ⟨?_, ?_, ?_, fun store => store.bus_runUntracked⟩
  · intro store calls label first
    refine ⟨(store.told_actAll calls).received label, fun once past number within => ?_⟩
    have single := store.single_actAll past fun before next shorter =>
      once before next (shorter.trans within)
    exact single.registrations_le_one label number
  · intro store α work ending start last ran changes
    have same : changes = (store.attempt true work ending).1.changes := by
      show (store.runTracked work ending).1.changes = _
      rw [Store.runTracked_eq]
    have silent : changes = [] → changes = [] ∧ ran.2.bus = store.bus :=
      fun nothing => ⟨nothing, store.silent_of_nothing work ending nothing⟩
    refine ⟨?_, Store.handed_of_committed, fun failed => silent ?_, fun idle => silent ?_⟩
    · rw [same]
      exact store.changes_increasing true work ending
    · rw [same]
      refine Store.changes_of_failed fun committed => failed ?_
      show (store.runTracked work ending).1.Committed ending
      rw [Store.runTracked_eq]
      exact committed
    · rw [same]
      exact Store.changes_of_idle true idle
  · intro store α work value changes given
    exact Store.runTracked_of_transact given

/-- A channel gets the tab that is stored while it is registered, and not the next one. -/
theorem removed_channel_misses_next_tab :
    let insert := fun (id : String) => Work.ask (.insert .tab (Tab.new id ""))
    let calls : List Store.Call :=
      [.openChannel "ui" "ui", .tracked (insert "a") fun _ => .keep, .unregister "ui",
        .tracked (insert "b") fun _ => .keep]
    let stored : Change := .updated ⟨.tab, { Tab.new "a" "" with version := 1 }⟩
    let first := { Store.vacant with bus := .empty }
    ∃ receiver, (first.actAll calls).bus.receivers.get? "ui" = some receiver ∧
      receiver.received = first.heard "ui" receiver.number calls ∧
      receiver.received = [[stored]] := by
  intro insert calls stored first
  have got : ((first.actAll calls).bus.receivers.get? "ui").map Receiver.received =
      some [[stored]] := by decide +kernel
  obtain ⟨receiver, held, received⟩ := Option.map_eq_some_iff.1 got
  have told := (sinks_receive_what_was_committed.1 .vacant calls "ui").1 receiver held
  exact ⟨receiver, held, told, received⟩

end ScopedStore
