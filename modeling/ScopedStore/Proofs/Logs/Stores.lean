import ScopedStore.Domain.Service
import ScopedStore.Proofs.Delivery
import ScopedStore.Proofs.Logs.Steps

/-!
# Stores of the same shape

The databases of two stores have the same shape, the same sinks are registered, the ids to come
are the same, and the logs are equal (`Store.SameShape`). A transaction keeps this where its work
keeps the shape of the handle (`Store.SameShape.attempt`), and so do the publication of its changes,
the first data and the calls of the bus. Of the changes a line tells at most how many they are.
-/

set_option autoImplicit false

namespace ScopedStore

/-! ## Buses -/

/-- The same sinks are registered, and the same receivers are there. What they have received is no
part of it. -/
structure Bus.SameShape (first second : Bus) : Prop where
  sinks : first.sinks = second.sinks
  channels : first.channels = second.channels
  receivers : ∀ label, (first.receivers.get? label).map Receiver.number =
    (second.receivers.get? label).map Receiver.number

namespace Bus.SameShape

variable {first second : Bus} {reading reading' : Reading}

theorem insert (same : first.SameShape second) (label : String) {receiver receiver' : Receiver}
    (numbers : receiver.number = receiver'.number) (other : String) :
    ((first.receivers.insert label receiver).get? other).map Receiver.number =
      ((second.receivers.insert label receiver').get? other).map Receiver.number := by
  rw [SortedMap.get?_insert, SortedMap.get?_insert]
  split
  · exact congrArg some numbers
  · exact same.receivers other

/-- **What is logged about a sink does not depend on what it is handed.** -/
theorem deliver (same : first.SameShape second) (log : reading.log = reading'.log)
    (changes changes' : List Change) (sink : Sink) :
    (first.deliver reading changes sink).2 = (second.deliver reading' changes' sink).2 ∧
      (first.deliver reading changes sink).1.SameShape (second.deliver reading' changes' sink).1 := by
  cases sink with
  | recorder label => exact ⟨rfl, same.sinks, same.channels, same.receivers⟩
  | reader label => exact ⟨log, same.sinks, same.channels, same.receivers⟩
  | channel label number =>
      have numbers := same.receivers label
      rw [Bus.deliver, Bus.deliver, send, send]
      cases held : first.receivers.get? label with
      | none =>
          cases held' : second.receivers.get? label with
          | none => exact ⟨rfl, same⟩
          | some receiver' =>
              rw [held, held'] at numbers
              cases numbers
      | some receiver =>
          cases held' : second.receivers.get? label with
          | none =>
              rw [held, held'] at numbers
              cases numbers
          | some receiver' =>
              rw [held, held'] at numbers
              have numbers : receiver.number = receiver'.number := Option.some.inj numbers
              dsimp only
              rw [← numbers]
              by_cases here : receiver.number = number
              · rw [if_pos here, if_pos here]
                exact ⟨rfl, same.sinks, same.channels, same.insert label rfl⟩
              · rw [if_neg here, if_neg here]
                exact ⟨rfl, same⟩

theorem deliverAll (same : first.SameShape second) (log : reading.log = reading'.log)
    (changes changes' : List Change) (sinks : List Sink) :
    (first.deliverAll reading changes sinks).2 = (second.deliverAll reading' changes' sinks).2 ∧
      (first.deliverAll reading changes sinks).1.SameShape
        (second.deliverAll reading' changes' sinks).1 := by
  induction sinks generalizing first second with
  | nil => exact ⟨rfl, same⟩
  | cons sink rest ih =>
      obtain ⟨here, between⟩ := same.deliver log changes changes' sink
      obtain ⟨later, last⟩ := ih between
      exact ⟨congrArg₂ (· ++ ·) here later, last⟩

/-- **What is logged about a publication tells the number of changes and no more.** -/
theorem publish (same : first.SameShape second) (log : reading.log = reading'.log)
    {changes changes' : List Change} (numbers : changes.length = changes'.length) :
    (first.publish reading changes).2 = (second.publish reading' changes').2 ∧
      (first.publish reading changes).1.SameShape (second.publish reading' changes').1 := by
  have empty : changes.isEmpty = changes'.isEmpty := by
    rw [Bool.eq_iff_iff, List.isEmpty_iff_length_eq_zero, List.isEmpty_iff_length_eq_zero, numbers]
  rw [Bus.publish, Bus.publish, empty, numbers, same.sinks]
  cases changes'.isEmpty with
  | true => exact ⟨rfl, same⟩
  | false =>
      obtain ⟨told, last⟩ := same.deliverAll log changes changes' second.sinks.values
      exact ⟨congrArg (· ++ _) told, last⟩

theorem dropReceiver (same : first.SameShape second) (label : String) :
    (first.dropReceiver label).SameShape (second.dropReceiver label) where
  sinks := same.sinks
  channels := same.channels
  receivers other := by
    rw [Bus.dropReceiver, Bus.dropReceiver, SortedMap.get?_erase, SortedMap.get?_erase]
    split
    · rfl
    · exact same.receivers other

theorem register (same : first.SameShape second) (spelling : String) (sink : Sink) :
    Parallel SameShape (first.register spelling sink) (second.register spelling sink) := by
  rw [Bus.register, Bus.register, same.sinks]
  split
  · exact .error _
  · split
    · exact .error _
    · exact .ok { same with sinks := rfl }

theorem unregister (same : first.SameShape second) (spelling : String) :
    Parallel SameShape (first.unregister spelling) (second.unregister spelling) := by
  rw [Bus.unregister, Bus.unregister, same.sinks]
  split
  · exact .ok { same with sinks := rfl }
  · exact .error _

theorem registerChannel (same : first.SameShape second) (spelling label : String) :
    Parallel SameShape (first.registerChannel spelling label) (second.registerChannel spelling label) := by
  have registered := same.register spelling (.channel label second.channels)
  rw [Bus.registerChannel, Bus.registerChannel, same.channels]
  generalize first.register spelling (.channel label second.channels) = result,
    second.register spelling (.channel label second.channels) = result' at registered ⊢
  cases registered with
  | error cause => exact .error cause
  | ok shape =>
      exact .ok { shape with
        channels := congrArg (· + 1) shape.channels
        receivers := shape.insert label shape.channels }

end Bus.SameShape

/-! ## Stores -/

/-- **The stores have the same shape**, and have logged the same. The time, the place of the
database and the waiting time in force are no part of it. -/
structure Store.SameShape (first second : Store) : Prop where
  config : first.config = second.config
  database : first.database.SameShape second.database
  contention : first.contention = second.contention
  bus : first.bus.SameShape second.bus
  ids : first.ids = second.ids
  log : first.log = second.log

namespace Store

/-- The changes are as many, or there are none because nothing was committed. -/
abbrev AsMany : Except StoreError (List Change) → Except StoreError (List Change) → Prop :=
  Agree fun changes changes' => changes.length = changes'.length

/-- The outcomes are of the same sort, with related values and as many changes. -/
inductive Outcome.SameShape {α β : Type} (related : α → β → Prop) : Outcome α → Outcome β → Prop
  | refused (cause other : StoreError) : SameShape related (.refused cause) (.refused other)
  | ended {value : α} {value' : β} {changes changes' : Except StoreError (List Change)}
      (values : related value value') (numbers : AsMany changes changes') :
      SameShape related (.ended value changes) (.ended value' changes')

theorem Outcome.SameShape.length_changes {α β : Type} {related : α → β → Prop} {first : Outcome α}
    {second : Outcome β} (shape : first.SameShape related second) :
    first.changes.length = second.changes.length := by
  cases shape with
  | refused cause other => rfl
  | ended values numbers =>
      cases numbers with
      | ok numbers => exact numbers
      | error cause other => rfl

theorem Outcome.SameShape.answer {α β : Type} {related : α → β → Prop}
    {first : Outcome (Except StoreError α)} {second : Outcome (Except StoreError β)}
    (shape : first.SameShape (Agree related) second) :
    Agree (fun answer answer' => related answer.1 answer'.1) first.answer second.answer := by
  cases shape with
  | refused cause other => exact .error cause other
  | ended values numbers =>
      cases values with
      | error cause other => exact .error cause other
      | ok values =>
          cases numbers with
          | ok numbers => exact .ok values
          | error cause other => exact .error cause other

end Store

theorem Handle.SameShape.tracked_eq {first second : Handle} (same : first.SameShape second) :
    first.tracked = second.tracked := by
  have none : first.frames = [] ↔ second.frames = [] := by
    rw [← List.length_eq_zero_iff, ← List.length_eq_zero_iff, same.frames.length_eq]
  rw [Handle.frames_eq_nil, Handle.frames_eq_nil] at none
  exact Bool.eq_iff_iff.2 (by simpa using not_congr none)

/-- As many changes are published. -/
theorem Handle.SameShape.length_finish {first second : Handle} (same : first.SameShape second) :
    first.finish.length = second.finish.length := by
  have sizes := same.frames.overlay.size_eq
  rw [finish_eq, finish_eq, allPending_eq, allPending_eq, SortedMap.values, SortedMap.values,
    List.length_map, List.length_map]
  exact sizes

namespace Store

variable {α β : Type} {first second : Store}

namespace SameShape

theorem begun (same : first.SameShape second) (tracked : Bool) :
    (Handle.start first.database tracked first.ids first.now).openScope.SameShape
      (Handle.start second.database tracked second.ids second.now).openScope := by
  rw [same.ids]
  exact (Handle.SameShape.start same.database tracked second.ids first.now second.now).openScope

theorem noteAll (same : first.SameShape second) (events : List Event) :
    (first.noteAll events).SameShape (second.noteAll events) :=
  { same with log := congrArg (· ++ events) same.log }

theorem absorb (same : first.SameShape second) {last last' : Handle} (after : last.SameShape last') :
    (first.absorb last).SameShape (second.absorb last') :=
  { same with
    ids := after.ids
    log := congrArg₂ (· ++ ·) same.log after.log }

/-- A commit succeeds on both sides or on neither. -/
theorem commit (same : first.SameShape second) {last last' : Handle} (after : last.SameShape last') :
    AsMany (first.commit last).1 (second.commit last').1 ∧
      (first.commit last).2.SameShape (second.commit last').2 := by
  rw [Store.commit, Store.commit]
  by_cases read : second.contention = .reading
  · rw [if_pos (same.contention.trans read), if_pos read]
    exact ⟨.error _ _, same⟩
  · rw [if_neg fun also => read (same.contention.symm.trans also), if_neg read]
    dsimp only
    refine ⟨.ok after.length_finish, ?_⟩
    have taken : ({ first with database := last.content } : Store).SameShape
        { second with database := last'.content } := { same with database := after.content }
    rw [after.tracked_eq, after.length_finish]
    exact taken.noteAll _

/-- **A transaction keeps the shape where its work does**, if it ends in the same way. It may also
be that neither begins. -/
theorem attempt (same : first.SameShape second) (related : α → β → Prop) (tracked : Bool)
    {work : Work α} {work' : Work β} {ending : α → Ending} {ending' : β → Ending}
    (runs : second.contention ≠ .writing →
      let ran := work.run (Handle.start first.database tracked first.ids first.now).openScope
      let ran' := work'.run (Handle.start second.database tracked second.ids second.now).openScope
      related ran.1 ran'.1 ∧ ending ran.1 = ending' ran'.1 ∧ ran.2.SameShape ran'.2) :
    (first.attempt tracked work ending).1.SameShape related
        (second.attempt tracked work' ending').1 ∧
      (first.attempt tracked work ending).2.SameShape (second.attempt tracked work' ending').2 := by
  rw [attempt_eq, attempt_eq, same.contention]
  by_cases busy : second.contention = .writing
  · rw [if_pos busy, if_pos busy]
    exact ⟨.refused _ _, same⟩
  · obtain ⟨values, ends, last⟩ := runs busy
    rw [if_neg busy, if_neg busy]
    dsimp only
    rw [ends]
    generalize work.run _ = ran, work'.run _ = ran' at values last ⊢
    generalize ending' ran'.1 = how
    have closed := last.closed how
    have after := same.absorb closed
    cases how with
    | keep =>
        obtain ⟨numbers, committed⟩ := after.commit closed
        exact ⟨.ended values numbers, committed⟩
    | discard => exact ⟨.ended values (.ok rfl), after.noteAll _⟩
    | unwind => exact ⟨.ended values (.ok rfl), after⟩

/-- What is logged when a sink looks into the store is the same. -/
theorem log_reading (same : first.SameShape second) : first.reading.log = second.reading.log := by
  have quiet : ({ first with log := [] } : Store).SameShape { second with log := [] } :=
    { same with log := rfl }
  have counted := Transaction.Alongside.count .tab _ _ (quiet.begun true)
  exact (quiet.attempt _ true fun _ =>
    ⟨counted.answers, counted.answers.ending_eq, counted.same⟩).2.log

/-- **A publication keeps the shape.** -/
theorem publish (same : first.SameShape second) {changes changes' : List Change}
    (numbers : changes.length = changes'.length) :
    (first.publish changes).SameShape (second.publish changes') := by
  obtain ⟨told, bus⟩ := same.bus.publish same.log_reading numbers
  have handed : ({ first with bus := (first.bus.publish first.reading changes).1 } : Store).SameShape
      { second with bus := (second.bus.publish second.reading changes').1 } :=
    { same with bus }
  rw [Store.publish, Store.publish]
  dsimp only
  rw [told]
  exact handed.noteAll _

section Transactions

variable {work : Work α} {work' : Work β} {ending : α → Ending} {ending' : β → Ending}

/-- **A tracked transaction keeps the shape where its work does.** -/
theorem runTracked (same : first.SameShape second) (related : α → β → Prop)
    (runs : second.contention ≠ .writing →
      let ran := work.run (Handle.start first.database true first.ids first.now).openScope
      let ran' := work'.run (Handle.start second.database true second.ids second.now).openScope
      related ran.1 ran'.1 ∧ ending ran.1 = ending' ran'.1 ∧ ran.2.SameShape ran'.2) :
    (first.runTracked work ending).2.SameShape (second.runTracked work' ending').2 := by
  obtain ⟨outcome, stores⟩ := same.attempt related true runs
  rw [runTracked_eq, runTracked_eq]
  exact stores.publish outcome.length_changes

/-- **So does an untracked one**, and the outcomes are of the same sort. -/
theorem runUntracked (same : first.SameShape second) (related : α → β → Prop)
    (runs : second.contention ≠ .writing →
      let ran := work.run (Handle.start first.database false first.ids first.now).openScope
      let ran' := work'.run (Handle.start second.database false second.ids second.now).openScope
      related ran.1 ran'.1 ∧ ending ran.1 = ending' ran'.1 ∧ ran.2.SameShape ran'.2) :
    ((∃ refusal, (first.runUntracked work ending).1 = .error refusal ∧
        (second.runUntracked work' ending').1 = .error refusal) ∨
      ∃ outcome outcome', (first.runUntracked work ending).1 = .ok outcome ∧
        (second.runUntracked work' ending').1 = .ok outcome' ∧
        outcome.SameShape related outcome') ∧
    (first.runUntracked work ending).2.SameShape (second.runUntracked work' ending').2 := by
  cases fits : engineTimeout first.config.initialTimeout with
  | error refusal =>
      rw [runUntracked_of_long fits, runUntracked_of_long (same.config ▸ fits)]
      exact ⟨.inl ⟨refusal, rfl, rfl⟩, same⟩
  | ok waiting =>
      obtain ⟨outcome, usual, left⟩ := runUntracked_of_fits fits work ending
      obtain ⟨outcome', usual', left'⟩ := runUntracked_of_fits (same.config ▸ fits) work' ending'
      have waits : ({ first with busyTimeout := waiting } : Store).SameShape
          { second with busyTimeout := waiting } := { same with }
      obtain ⟨shape, stores⟩ := waits.attempt related false runs
      rw [outcome, outcome', left, left']
      exact ⟨.inr ⟨_, _, rfl, rfl, shape⟩, { stores with }⟩

end Transactions

/-- **The first data keeps the shape.** -/
theorem ensureInitialData (same : first.SameShape second) :
    (Service.ensureInitialData first).2.SameShape (Service.ensureInitialData second).2 := by
  have seeded := Graph.alongside_seed _ _ (same.begun false)
  obtain ⟨answers, stores⟩ := same.runUntracked _ fun _ =>
    ⟨seeded.answers, seeded.answers.ending_eq, seeded.same⟩
  rw [Service.ensureInitialData, Service.ensureInitialData, transactUntracked, transactUntracked]
  generalize first.runUntracked Graph.seed.run Transaction.ending = ran,
    second.runUntracked Graph.seed.run Transaction.ending = ran' at answers stores ⊢
  obtain ⟨answer, after⟩ := ran
  obtain ⟨answer', after'⟩ := ran'
  rcases answers with ⟨refusal, rfl, rfl⟩ | ⟨outcome, outcome', rfl, rfl, shape⟩
  · exact stores
  · have agree := shape.answer
    dsimp only
    generalize outcome.answer = given, outcome'.answer = given' at agree ⊢
    cases agree with
    | error cause other => exact stores
    | @ok value value' ids =>
        obtain ⟨_ | client, changes⟩ := value
        · obtain ⟨_ | client', changes'⟩ := value'
          · exact stores.noteAll _
          · cases ids
        · obtain ⟨_ | client', changes'⟩ := value'
          · cases ids
          · have named : client.id = client'.id := Option.some.inj ids
            dsimp only
            rw [named]
            exact stores.noteAll _

/-! ## Calls of the bus -/

theorem withBus (same : first.SameShape second) {result result' : Except BusError Bus}
    (buses : Parallel Bus.SameShape result result') :
    (first.withBus result).SameShape (second.withBus result') := by
  cases buses with
  | error cause => exact same
  | ok shape => exact { same with bus := shape }

end SameShape

end Store

end ScopedStore
