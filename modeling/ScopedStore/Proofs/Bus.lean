import ScopedStore.Proofs.SortedMap
import ScopedStore.Store.Bus

/-!
# Who is told

Publishing a set of changes hands it to every registered sink once, in the order of their ids
(`Bus.hands_publish`). A receiver gets it once for each id under which its channel is registered,
and a recorder or a reader notes it once; which of the others has lost its receiver makes no
difference. Nobody is registered or removed meanwhile.

Channels are numbered in the order in which they were opened, so a channel that is opened is not
registered yet. As long as no channel that is registered is registered again under another id, each
is registered under one id at most (`Bus.Single.registrations_le_one`).
-/

set_option autoImplicit false

namespace ScopedStore

/-- The receiver after it has got some more sets. -/
def Receiver.receive (receiver : Receiver) (sets : List (List Change)) : Receiver :=
  { receiver with received := receiver.received ++ sets }

/-- What a sink notes about a set of changes, if it notes anything. -/
def Sink.notice? (reading : Reading) (changes : List Change) : Sink → Option Notice
  | channel _ _ => none
  | recorder label => some (.addresses label (changes.map Change.ref))
  | reader label => some (.tabs label changes.length reading.tabs)

namespace Bus

/-! ## Delivery -/

/-- The bus after a set of changes was handed to some sinks. Every receiver has got it as often as
its channel is among them, and each of the others has noted it. -/
structure Hands (reading : Reading) (changes : List Change) (bus : Bus) (called : List Sink)
    (after : Bus) : Prop where
  sinks : after.sinks = bus.sinks
  channels : after.channels = bus.channels
  receivers : ∀ label, after.receivers.get? label =
    (bus.receivers.get? label).map fun receiver =>
      receiver.receive (.replicate (called.count (.channel label receiver.number)) changes)
  notices : after.notices = bus.notices ++ called.filterMap (Sink.notice? reading changes)

variable {reading : Reading} {changes : List Change} {bus middle after : Bus}

theorem hands_nil (bus : Bus) : Hands reading changes bus [] bus where
  sinks := rfl
  channels := rfl
  receivers label := by
    cases bus.receivers.get? label with
    | none => rfl
    | some receiver => simp [Receiver.receive]
  notices := by simp

theorem Hands.append {first second : List Sink} (hands : Hands reading changes bus first middle)
    (later : Hands reading changes middle second after) :
    Hands reading changes bus (first ++ second) after where
  sinks := later.sinks.trans hands.sinks
  channels := later.channels.trans hands.channels
  receivers label := by
    rw [later.receivers, hands.receivers]
    cases bus.receivers.get? label with
    | none => rfl
    | some receiver => simp [Receiver.receive, List.count_append]
  notices := by rw [later.notices, hands.notices, List.filterMap_append, List.append_assoc]

theorem send_eq_some {label : String} {number : Nat}
    (sent : bus.send label number changes = some after) :
    ∃ receiver, bus.receivers.get? label = some receiver ∧ receiver.number = number ∧
      after = { bus with receivers := bus.receivers.insert label (receiver.receive [changes]) } := by
  rw [send] at sent
  cases held : bus.receivers.get? label with
  | none =>
      rw [held] at sent
      cases sent
  | some receiver =>
      rw [held] at sent
      by_cases same : receiver.number = number
      · simp only [same, if_true] at sent
        cases sent
        exact ⟨receiver, rfl, same, by rw [← same]; rfl⟩
      · simp only [same, if_false] at sent
        cases sent

/-- A channel passes nothing on exactly if its receiver is gone. -/
theorem send_eq_none {label : String} {number : Nat} :
    bus.send label number changes = none ↔
      ∀ receiver, bus.receivers.get? label = some receiver → receiver.number ≠ number := by
  rw [send]
  cases bus.receivers.get? label with
  | none => simp
  | some receiver => simp

/-- **A sink is handed the changes once.** -/
theorem hands_deliver (reading : Reading) (changes : List Change) (bus : Bus) (sink : Sink) :
    Hands reading changes bus [sink] (bus.deliver reading changes sink).1 := by
  have untouched (label : String) (other : ∀ number, sink ≠ .channel label number) :
      bus.receivers.get? label = (bus.receivers.get? label).map fun receiver =>
        receiver.receive (.replicate ([sink].count (.channel label receiver.number)) changes) := by
    cases bus.receivers.get? label with
    | none => rfl
    | some receiver => simp [Receiver.receive, other]
  cases sink with
  | recorder label | reader label => exact ⟨rfl, rfl, fun _ => untouched _ nofun, rfl⟩
  | channel label number =>
      rw [deliver]
      cases sent : bus.send label number changes with
      | none =>
          refine ⟨rfl, rfl, fun other => ?_, by simp [Sink.notice?]⟩
          have gone := send_eq_none.1 sent
          cases held : bus.receivers.get? other with
          | none => rfl
          | some receiver =>
              have unlike : Sink.channel label number ≠ .channel other receiver.number := by
                rintro ⟨⟩
                exact gone receiver held rfl
              simp [Receiver.receive, unlike]
      | some after =>
          obtain ⟨receiver, held, rfl, rfl⟩ := send_eq_some sent
          refine ⟨rfl, rfl, fun other => ?_, by simp [Sink.notice?]⟩
          by_cases same : other = label
          · subst same
            simp [SortedMap.get?_insert_self, held]
          · dsimp only
            rw [SortedMap.get?_insert, if_neg same]
            exact untouched other fun _ equal => same (by cases equal; rfl)

theorem hands_deliverAll (reading : Reading) (changes : List Change) (bus : Bus)
    (sinks : List Sink) :
    Hands reading changes bus sinks (bus.deliverAll reading changes sinks).1 := by
  induction sinks generalizing bus with
  | nil => exact hands_nil bus
  | cons sink rest ih => exact (hands_deliver reading changes bus sink).append (ih _)

/-- **Publishing hands a set that is not empty to every registered sink.** -/
theorem hands_publish (reading : Reading) (bus : Bus) (some : changes ≠ []) :
    Hands reading changes bus bus.sinks.values (bus.publish reading changes).1 := by
  rw [publish, if_neg (by simpa using some)]
  exact hands_deliverAll reading changes bus bus.sinks.values

theorem publish_nil (reading : Reading) (bus : Bus) : (bus.publish reading []).1 = bus := rfl

/-! ## Registration -/

/-- The number of ids under which a channel is registered. -/
def registrations (bus : Bus) (label : String) (number : Nat) : Nat :=
  bus.sinks.values.count (.channel label number)

/-- The sink can be registered: if it is a channel, it was opened before. -/
def Knows (bus : Bus) : Sink → Prop
  | .channel _ number => number < bus.channels
  | .recorder _ | .reader _ => True

instance (bus : Bus) (sink : Sink) : Decidable (bus.Knows sink) := by
  cases sink with
  | channel label number => exact inferInstanceAs (Decidable (number < bus.channels))
  | recorder label | reader label => exact inferInstanceAs (Decidable True)

/-- What can become of the registered sinks in one step, which may be the registration of a channel
that is registered under another id. -/
inductive Enrols (again : Prop) (bus after : Bus) : Prop
  | same (sinks : after.sinks = bus.sinks) (channels : after.channels = bus.channels)
  | opened (id label : String) (free : bus.sinks.get? id = none)
      (sinks : after.sinks = bus.sinks.insert id (.channel label bus.channels))
      (channels : after.channels = bus.channels + 1)
  | added (id : String) (sink : Sink) (free : bus.sinks.get? id = none) (known : bus.Knows sink)
      (fresh : ∀ label number, sink = .channel label number →
        again ∨ ∀ other, bus.sinks.get? other ≠ some (.channel label number))
      (sinks : after.sinks = bus.sinks.insert id sink) (channels : after.channels = bus.channels)
  | removed (id : String) (sinks : after.sinks = bus.sinks.erase id)
      (channels : after.channels = bus.channels)

theorem register_eq_ok {spelling : String} {sink : Sink}
    (registered : bus.register spelling sink = .ok after) :
    bus.sinks.get? (Text.trim spelling) = none ∧
      after = { bus with sinks := bus.sinks.insert (Text.trim spelling) sink } := by
  rw [register] at registered
  split at registered
  · cases registered
  · split at registered
    · cases registered
    · rename_i free
      cases registered
      exact ⟨by simpa [SortedMap.contains] using free, rfl⟩

theorem registerChannel_eq_ok {spelling label : String}
    (registered : bus.registerChannel spelling label = .ok after) :
    bus.sinks.get? (Text.trim spelling) = none ∧
      after = { bus with
        sinks := bus.sinks.insert (Text.trim spelling) (.channel label bus.channels)
        channels := bus.channels + 1
        receivers := bus.receivers.insert label ⟨bus.channels, []⟩ } := by
  rw [registerChannel] at registered
  cases done : bus.register spelling (.channel label bus.channels) with
  | error cause =>
      rw [done] at registered
      cases registered
  | ok middle =>
      rw [done] at registered
      obtain ⟨free, rfl⟩ := register_eq_ok done
      cases registered
      exact ⟨free, rfl⟩

theorem unregister_eq_ok {spelling : String} (removed : bus.unregister spelling = .ok after) :
    after = { bus with sinks := bus.sinks.erase (Text.trim spelling) } := by
  rw [unregister] at removed
  split at removed
  · cases removed
    rfl
  · cases removed

/-- Every registered channel was opened. -/
def AllKnown (bus : Bus) : Prop := ∀ id sink, bus.sinks.get? id = some sink → bus.Knows sink

/-- No channel is registered under two ids. -/
def Single (bus : Bus) : Prop :=
  ∀ id other label number, bus.sinks.get? id = some (.channel label number) →
    bus.sinks.get? other = some (.channel label number) → id = other

theorem Knows.mono {sink : Sink} (knows : bus.Knows sink) (more : bus.channels ≤ after.channels) :
    after.Knows sink := by
  cases sink with
  | channel label number => exact Nat.lt_of_lt_of_le knows more
  | recorder label | reader label => trivial

theorem Enrols.channels_le {again : Prop} (enrols : Enrols again bus after) :
    bus.channels ≤ after.channels := by
  cases enrols with
  | same _ channels | removed _ _ channels | added _ _ _ _ _ _ channels =>
      exact Nat.le_of_eq channels.symm
  | opened _ _ _ _ channels => exact channels ▸ Nat.le_succ _

/-- Registered channels stay known. -/
theorem Enrols.allKnown {again : Prop} (enrols : Enrols again bus after) (known : bus.AllKnown) :
    after.AllKnown := by
  intro id sink held
  have more := enrols.channels_le
  cases enrols with
  | same sinks _ =>
      rw [sinks] at held
      exact (known id sink held).mono more
  | opened new label free sinks channels =>
      rw [sinks, SortedMap.get?_insert] at held
      split at held
      · cases held
        exact Nat.lt_of_lt_of_eq (Nat.lt_succ_self bus.channels) channels.symm
      · exact (known id sink held).mono more
  | added new other free knows _ sinks _ =>
      rw [sinks, SortedMap.get?_insert] at held
      split at held
      · cases held
        exact knows.mono more
      · exact (known id sink held).mono more
  | removed gone sinks _ =>
      rw [sinks, SortedMap.get?_erase] at held
      split at held
      · cases held
      · exact (known id sink held).mono more

/-- A sink under a new id leaves each channel under one id, if it is not a channel that is
registered under another. -/
theorem Single.insert (single : bus.Single) {id : String} {sink : Sink}
    (fresh : ∀ label number, sink = .channel label number →
      ∀ other, bus.sinks.get? other ≠ some (.channel label number))
    (sinks : after.sinks = bus.sinks.insert id sink) : after.Single := by
  intro first second label number held held'
  rw [sinks, SortedMap.get?_insert] at held held'
  split at held <;> split at held'
  · rename_i here here'
    exact here.trans here'.symm
  · exact absurd held' (fresh label number (Option.some.inj held) second)
  · exact absurd held (fresh label number (Option.some.inj held') first)
  · exact single first second label number held held'

/-- A channel stays registered under one id as long as no registered channel is registered again. -/
theorem Enrols.single {again : Prop} (enrols : Enrols again bus after) (known : bus.AllKnown)
    (single : bus.Single) (once : ¬again) : after.Single := by
  cases enrols with
  | same sinks _ =>
      intro id other label number held held'
      rw [sinks] at held held'
      exact single id other label number held held'
  | opened new opens free sinks _ =>
      refine single.insert (fun label number same other held => ?_) sinks
      -- The number of the new channel is that of no registered one.
      cases same
      exact Nat.lt_irrefl _ (known other _ held)
  | added new sink _ _ fresh sinks _ =>
      exact single.insert (fun label number same =>
        (fresh label number same).resolve_left once) sinks
  | removed gone sinks _ =>
      intro id other label number held held'
      rw [sinks, SortedMap.get?_erase] at held held'
      split at held
      · cases held
      · split at held'
        · cases held'
        · exact single id other label number held held'

theorem not_registered {label : String} {number : Nat} (none : bus.registrations label number = 0)
    (id : String) : bus.sinks.get? id ≠ some (.channel label number) := fun held =>
  List.count_eq_zero.1 none
    (List.mem_map.2 ⟨⟨id, _⟩, (bus.sinks.get?_eq_some_iff id _).1 held, rfl⟩)

theorem registrations_eq_zero {label : String} {number : Nat} (known : bus.AllKnown)
    (beyond : bus.channels ≤ number) : bus.registrations label number = 0 := by
  refine List.count_eq_zero.2 fun member => ?_
  obtain ⟨⟨id, _⟩, inMap, rfl⟩ := List.mem_map.1 member
  have lower : number < bus.channels := known id _ ((bus.sinks.get?_eq_some_iff id _).2 inMap)
  omega

/-- What no two places of a list hold is in it once at most. -/
theorem count_le_one_of_pairwise {sinks : List Sink} {sink : Sink}
    (distinct : sinks.Pairwise fun earlier later => ¬(earlier = sink ∧ later = sink)) :
    sinks.count sink ≤ 1 := by
  induction sinks with
  | nil => simp
  | cons first rest ih =>
      obtain ⟨others, later⟩ := List.pairwise_cons.1 distinct
      rw [List.count_cons]
      by_cases here : first = sink
      · have none : rest.count sink = 0 :=
          List.count_eq_zero.2 fun member => others sink member ⟨here, rfl⟩
        simp [here, none]
      · simpa [here] using ih later

/-- **A channel is registered under one id at most**, unless it is registered again. -/
theorem Single.registrations_le_one (single : bus.Single) (label : String) (number : Nat) :
    bus.registrations label number ≤ 1 := by
  refine count_le_one_of_pairwise ?_
  rw [SortedMap.values, List.pairwise_map]
  refine bus.sinks.increasing.imp_of_mem fun {earlier later} before behind smaller => ?_
  rintro ⟨first, second⟩
  have same := single earlier.1 later.1 label number
    ((bus.sinks.get?_eq_some_iff _ _).2 (first ▸ before))
    ((bus.sinks.get?_eq_some_iff _ _).2 (second ▸ behind))
  rw [same, Std.LawfulEqOrd.compare_eq_iff_eq.2 rfl] at smaller
  cases smaller

end Bus

end ScopedStore
