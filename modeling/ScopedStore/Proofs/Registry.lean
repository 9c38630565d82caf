import Mathlib.Data.List.DropRight
import Mathlib.Data.List.Induction
import ScopedStore.Proofs.Bus

/-!
# The sinks of a bus as a finite map

Which sinks a bus has is told by a map from ids to sinks (`Bus.Roll`), and the calls on the bus are
calls on the map: a sink is registered exactly if the id without its blanks is neither empty nor
given away, and removed exactly if the id is given to somebody. A call that fails changes nothing.

What the sinks are handed is a list (`Bus.handed`): each set that is published and is not empty, to
the sink of every id, in the order of the ids. The bus and the map go through any calls side by
side, and at every point what the receivers have got, and what was noted, is what that list says
(`Bus.follows_actAll`). So a sink that was registered is handed exactly the sets that are published
before its id is removed (`Bus.Follows.handed_while_held`), and if it is registered only this once
it is handed nothing else (`Bus.handed_of_enrolled`).

Asking a bus for its ids is no call here, as nothing becomes of it.
-/

set_option autoImplicit false

namespace ScopedStore

/-! ## Ids -/

namespace Text

/-- Nothing is trimmed twice. -/
theorem trimBlanks_trimBlanks (characters : List Char) :
    trimBlanks (trimBlanks characters) = trimBlanks characters := by
  have begins : trimBlanks characters <+: characters.dropWhile isBlank :=
    List.rdropWhile_prefix isBlank _
  have same : (trimBlanks characters).dropWhile isBlank = trimBlanks characters := by
    refine List.dropWhile_eq_self_iff.2 fun some blank => ?_
    have first := List.head?_dropWhile_not isBlank characters
    have here : (characters.dropWhile isBlank).head? = Option.some (trimBlanks characters)[0] := by
      rw [List.head?_eq_getElem?, begins.getElem some, List.getElem?_eq_getElem]
    rw [here] at first
    exact absurd (first.symm.trans blank) Bool.false_ne_true
  rw [trimBlanks, same]
  exact List.rdropWhile_idempotent isBlank _

@[simp] theorem trim_trim (text : String) : trim (trim text) = trim text := by
  rw [trim, trim, String.toList_ofList, trimBlanks_trimBlanks]

end Text

/-- The entries under a key: there is one of them at most. -/
theorem SortedMap.filter_entries {κ β : Type} [Ord κ] [Std.TransOrd κ] [Std.LawfulEqOrd κ]
    [DecidableEq κ] (map : SortedMap κ β) (key : κ) :
    map.entries.filter (fun entry => entry.1 = key) = ((map.get? key).map (key, ·)).toList := by
  obtain ⟨entries, increasing⟩ := map
  rw [get?]
  dsimp only
  induction entries with
  | nil => rfl
  | cons head rest ih =>
      obtain ⟨other, value⟩ := head
      have rests := ih (List.pairwise_cons.1 increasing).2
      rw [Entries.lookup_cons]
      by_cases same : key = other
      · subst same
        rw [Entries.lookup_rest_of_increasing increasing] at rests
        simpa using rests
      · simpa [same, Ne.symm same] using rests

namespace Bus

/-! ## Calls -/

/-- Something that is done with a bus. What is registered is the sink of a new channel, or a
recorder, a reader or the sink of a channel that was opened before. -/
inductive Call
  | openChannel (spelling label : String)
  | register (spelling : String) (sink : Sink)
  | unregister (spelling : String)
  | publish (reading : Reading) (changes : List Change)
  | dropReceiver (label : String)

/-- What a call comes to. -/
def result (bus : Bus) : Call → Except BusError Bus
  | .openChannel spelling label => bus.registerChannel spelling label
  | .register spelling sink => bus.register spelling sink
  | .unregister spelling => bus.unregister spelling
  | .publish reading changes => .ok (bus.publish reading changes).1
  | .dropReceiver label => .ok (bus.dropReceiver label)

/-- The sink that a call registers is there. -/
def Possible (bus : Bus) : Call → Prop
  | .register _ sink => bus.Knows sink
  | _ => True

instance (bus : Bus) (call : Call) : Decidable (bus.Possible call) :=
  match call with
  | .register _ sink => inferInstanceAs (Decidable (bus.Knows sink))
  | .openChannel _ _ | .unregister _ | .publish _ _ | .dropReceiver _ => instDecidableTrue

/-- The bus after a call. Nobody registers a sink that is not there. -/
def act (bus : Bus) (call : Call) : Bus :=
  if bus.Possible call then
    match bus.result call with
    | .ok after => after
    | .error _ => bus
  else bus

/-- The bus after some calls. -/
def actAll (bus : Bus) (calls : List Call) : Bus := calls.foldl act bus

/-- The call removes the sink of an id. -/
def Call.removes (id : String) : Call → Bool
  | .unregister spelling => Text.trim spelling = id
  | _ => false

/-! ## What sinks are handed -/

/-- A sink is called under its id, with a set of changes. -/
structure Handing where
  id : String
  sink : Sink
  reading : Reading
  changes : List Change

/-- What the sink notes. -/
def Handing.notice? (handing : Handing) : Option Notice :=
  handing.sink.notice? handing.reading handing.changes

/-- What a call hands to the sink of an id: a set that is published, unless it is empty. -/
def Call.handing? : Call → String × Sink → Option Handing
  | .publish reading changes, (id, sink) =>
      if changes.isEmpty then none else some ⟨id, sink, reading, changes⟩
  | _, _ => none

/-- What a call hands to the sinks of a bus, in order. -/
def handings (bus : Bus) (call : Call) : List Handing := bus.sinks.entries.filterMap call.handing?

/-- What some calls hand to the sinks of a bus, in order. -/
def handed (bus : Bus) : List Call → List Handing
  | [] => []
  | call :: rest => bus.handings call ++ (bus.act call).handed rest

/-- The sets that a sink was handed, in order. -/
def setsTo (sink : Sink) (log : List Handing) : List (List Change) :=
  (log.filter fun handing => handing.sink = sink).map Handing.changes

/-! ## The map -/

/-- Who has to be registered: the sink to which an id is given, the number of channels that were
opened, and the number of the channel whose receiver has a label. -/
structure Roll where
  holder : String → Option Sink
  channels : Nat
  ends : String → Option Nat

namespace Roll

/-- Nobody. -/
def blank : Roll := ⟨fun _ => none, 0, fun _ => none⟩

/-- There is something but blanks in the id, and it is not given away. -/
def Free (roll : Roll) (spelling : String) : Prop :=
  Text.trim spelling ≠ "" ∧ roll.holder (Text.trim spelling) = none

instance (roll : Roll) (spelling : String) : Decidable (roll.Free spelling) :=
  inferInstanceAs (Decidable (_ ∧ _))

/-- The sink can be registered: if it is a channel, it was opened before. -/
def Knows (roll : Roll) : Sink → Prop
  | .channel _ number => number < roll.channels
  | .recorder _ | .reader _ => True

instance (roll : Roll) (sink : Sink) : Decidable (roll.Knows sink) :=
  match sink with
  | .channel _ number => Nat.decLt number roll.channels
  | .recorder _ | .reader _ => instDecidableTrue

/-- The sink that a call registers, and its id. -/
def enrolled? (roll : Roll) : Call → Option (String × Sink)
  | .openChannel spelling label =>
      if roll.Free spelling then some (Text.trim spelling, .channel label roll.channels) else none
  | .register spelling sink =>
      if roll.Free spelling ∧ roll.Knows sink then some (Text.trim spelling, sink) else none
  | _ => none

/-- The id is given to a sink. -/
def enrol (roll : Roll) (id : String) (sink : Sink) : Roll :=
  { roll with holder := Function.update roll.holder id (some sink) }

/-- A channel is opened, and its receiver has a label. -/
def opened (roll : Roll) (label : String) : Roll where
  holder := roll.holder
  channels := roll.channels + 1
  ends := Function.update roll.ends label (some roll.channels)

/-- Who has to be registered after a call. -/
def act (roll : Roll) : Call → Roll
  | .openChannel spelling label =>
      if roll.Free spelling then
        (roll.opened label).enrol (Text.trim spelling) (.channel label roll.channels)
      else roll
  | .register spelling sink =>
      if roll.Free spelling ∧ roll.Knows sink then roll.enrol (Text.trim spelling) sink else roll
  | .unregister spelling =>
      { roll with holder := Function.update roll.holder (Text.trim spelling) none }
  | .publish _ _ => roll
  | .dropReceiver label => { roll with ends := Function.update roll.ends label none }

/-- Who has to be registered after some calls. -/
def actAll (roll : Roll) (calls : List Call) : Roll := calls.foldl act roll

/-- The sinks that some calls register, with their ids, in order. -/
def enrolments (roll : Roll) : List Call → List (String × Sink)
  | [] => []
  | call :: rest => (roll.enrolled? call).toList ++ (roll.act call).enrolments rest

variable {roll : Roll} {call : Call} {id : String} {sink : Sink}

theorem actAll_append (roll : Roll) (first second : List Call) :
    roll.actAll (first ++ second) = (roll.actAll first).actAll second := List.foldl_append

theorem enrolments_append (roll : Roll) (first second : List Call) :
    roll.enrolments (first ++ second) =
      roll.enrolments first ++ (roll.actAll first).enrolments second := by
  induction first generalizing roll with
  | nil => rfl
  | cons call rest ih =>
      rw [List.cons_append, enrolments, enrolments, ih, List.append_assoc]
      rfl

/-- **A call gives one id at most to a sink**, and takes the ids away that it removes. -/
theorem holder_act (roll : Roll) (call : Call) (id : String) :
    (roll.act call).holder id =
      if call.removes id then none
      else ((roll.enrolled? call).bind fun entry => if id = entry.1 then some entry.2 else none).or
        (roll.holder id) := by
  cases call with
  | openChannel spelling label =>
      rw [act, enrolled?]
      by_cases free : roll.Free spelling
      · by_cases here : id = Text.trim spelling <;>
          simp [free, here, enrol, opened, Call.removes]
      · simp [free, Call.removes]
  | register spelling sink =>
      rw [act, enrolled?]
      by_cases free : roll.Free spelling ∧ roll.Knows sink
      · by_cases here : id = Text.trim spelling <;> simp [free, here, enrol, Call.removes]
      · simp [free, Call.removes]
  | unregister spelling =>
      rw [act]
      by_cases here : id = Text.trim spelling
      · simp [here, Call.removes]
      · simp [here, Ne.symm here, enrolled?, Call.removes]
  | publish reading changes | dropReceiver label => simp [act, enrolled?, Call.removes]

/-- Only an id that is free is given to a sink. -/
theorem free_of_enrolled (enrolled : roll.enrolled? call = some (id, sink)) :
    id ≠ "" ∧ Text.trim id = id ∧ roll.holder id = none := by
  cases call with
  | openChannel spelling label =>
      rw [enrolled?, Option.ite_none_right_eq_some] at enrolled
      obtain ⟨free, same⟩ := enrolled
      cases same
      exact ⟨free.1, Text.trim_trim spelling, free.2⟩
  | register spelling sink =>
      rw [enrolled?, Option.ite_none_right_eq_some] at enrolled
      obtain ⟨⟨free, _⟩, same⟩ := enrolled
      cases same
      exact ⟨free.1, Text.trim_trim spelling, free.2⟩
  | unregister | publish | dropReceiver => cases enrolled

theorem not_removes_of_enrolled (enrolled : roll.enrolled? call = some (id, sink))
    (other : String) : call.removes other = false := by
  cases call with
  | unregister => cases enrolled
  | openChannel | register | publish | dropReceiver => rfl

/-- Who holds an id after a call held it before, or was given it. -/
theorem held_or_enrolled (held : (roll.act call).holder id = some sink) :
    call.removes id = false ∧
      (roll.holder id = some sink ∨ roll.enrolled? call = some (id, sink)) := by
  rw [holder_act] at held
  cases removed : call.removes id with
  | true => simp [removed] at held
  | false =>
      refine ⟨rfl, ?_⟩
      rw [removed, if_neg Bool.false_ne_true, Option.or_eq_some_iff] at held
      rcases held with given | ⟨_, before⟩
      · obtain ⟨⟨other, entry⟩, enrolled, given⟩ := Option.bind_eq_some_iff.1 given
        rw [Option.ite_none_right_eq_some] at given
        obtain ⟨rfl, same⟩ := given
        cases same
        exact .inr enrolled
      · exact .inl before

/-- **Who holds an id keeps it until it is removed.** -/
theorem holder_act_of_held (held : roll.holder id = some sink)
    (stays : call.removes id = false) : (roll.act call).holder id = some sink := by
  rw [holder_act, stays, if_neg Bool.false_ne_true, held]
  cases enrolled : roll.enrolled? call with
  | none => rfl
  | some entry =>
      obtain ⟨other, sink⟩ := entry
      -- The id that is given away is another one, as it was free.
      have different : id ≠ other := by
        rintro rfl
        rw [(free_of_enrolled enrolled).2.2] at held
        cases held
      simp [different]

theorem holder_act_of_enrolled (enrolled : roll.enrolled? call = some (id, sink)) :
    (roll.act call).holder id = some sink := by
  rw [holder_act, not_removes_of_enrolled enrolled, if_neg Bool.false_ne_true, enrolled]
  simp

/-- Who registers hands nothing out. -/
theorem handing?_of_enrolled (enrolled : roll.enrolled? call = some (id, sink))
    (entry : String × Sink) : call.handing? entry = none := by
  cases call with
  | publish => cases enrolled
  | openChannel | register | unregister | dropReceiver => rfl

/-- Who holds an id was registered. -/
theorem mem_enrolments_of_held {calls : List Call}
    (held : (blank.actAll calls).holder id = some sink) :
    sink ∈ (blank.enrolments calls).map Prod.snd := by
  induction calls using List.reverseRecOn with
  | nil => cases held
  | append_singleton past call ih =>
      rw [actAll_append] at held
      rw [enrolments_append, List.map_append, List.mem_append]
      obtain ⟨_, before | enrolled⟩ := held_or_enrolled held
      · exact .inl (ih before)
      · exact .inr (by simp [enrolments, enrolled])

/-- Every id that is given away is trimmed, and not empty. -/
theorem named_actAll (calls : List Call) (id : String)
    (held : (blank.actAll calls).holder id ≠ none) : id ≠ "" ∧ Text.trim id = id := by
  induction calls using List.reverseRecOn with
  | nil => exact absurd rfl held
  | append_singleton past call ih =>
      obtain ⟨sink, held⟩ := Option.ne_none_iff_exists'.1 held
      rw [actAll_append] at held
      obtain ⟨_, before | enrolled⟩ := held_or_enrolled held
      · exact ih (by simp [before])
      · have free := free_of_enrolled enrolled
        exact ⟨free.1, free.2.1⟩

end Roll

/-! ## What is registered, and what fails -/

variable {bus : Bus} {roll : Roll} {log : List Handing} {call : Call} {id : String} {sink : Sink}

theorem register_of_free {spelling : String} (some : Text.trim spelling ≠ "")
    (free : bus.sinks.get? (Text.trim spelling) = none) :
    bus.register spelling sink =
      .ok { bus with sinks := bus.sinks.insert (Text.trim spelling) sink } := by
  rw [register, if_neg (by simpa using some), if_neg (by simp [SortedMap.contains, free])]

/-- **A sink can be registered exactly if the trimmed id is not empty and free.** -/
theorem register_ok_iff (bus : Bus) (spelling : String) (sink : Sink) :
    (∃ after, bus.register spelling sink = .ok after) ↔
      Text.trim spelling ≠ "" ∧ bus.sinks.get? (Text.trim spelling) = none := by
  refine ⟨?_, fun free => ⟨_, register_of_free free.1 free.2⟩⟩
  rintro ⟨after, registered⟩
  refine ⟨fun blank => ?_, (register_eq_ok registered).1⟩
  rw [register, blank] at registered
  cases registered

theorem registerChannel_ok_iff (bus : Bus) (spelling label : String) :
    (∃ after, bus.registerChannel spelling label = .ok after) ↔
      Text.trim spelling ≠ "" ∧ bus.sinks.get? (Text.trim spelling) = none := by
  rw [← bus.register_ok_iff spelling (.channel label bus.channels), registerChannel]
  cases bus.register spelling (.channel label bus.channels) with
  | ok after => exact iff_of_true ⟨_, rfl⟩ ⟨_, rfl⟩
  | error cause =>
      refine iff_of_false ?_ ?_
      · rintro ⟨after, done⟩
        cases done
      · rintro ⟨after, done⟩
        cases done

theorem unregister_ok_iff (bus : Bus) (spelling : String) :
    (∃ after, bus.unregister spelling = .ok after) ↔
      (bus.sinks.get? (Text.trim spelling)).isSome := by
  rw [unregister, SortedMap.contains]
  cases (bus.sinks.get? (Text.trim spelling)).isSome with
  | true => exact iff_of_true ⟨_, rfl⟩ rfl
  | false =>
      refine iff_of_false ?_ Bool.false_ne_true
      rintro ⟨after, done⟩
      cases done

/-- A call that fails changes nothing. -/
theorem act_of_error (bus : Bus) (call : Call) {cause : BusError}
    (failed : bus.result call = .error cause) : bus.act call = bus := by
  rw [act, failed]
  split <;> rfl

theorem act_of_ok (bus : Bus) (call : Call) {after : Bus} (possible : bus.Possible call)
    (done : bus.result call = .ok after) : bus.act call = after := by
  rw [act, if_pos possible, done]

/-! ## One call -/

theorem handings_publish {reading : Reading} {changes : List Change} (any : changes ≠ []) :
    bus.handings (.publish reading changes) =
      bus.sinks.entries.map fun entry => ⟨entry.1, entry.2, reading, changes⟩ := by
  have each : (Call.publish reading changes).handing? = fun entry =>
      some ⟨entry.1, entry.2, reading, changes⟩ := by
    funext ⟨id, sink⟩
    rw [Call.handing?, if_neg (by simpa using any)]
  rw [handings, each, ← List.filterMap_eq_map]
  rfl

theorem setsTo_append (sink : Sink) (first second : List Handing) :
    setsTo sink (first ++ second) = setsTo sink first ++ setsTo sink second := by
  rw [setsTo, List.filter_append, List.map_append]
  rfl

/-- Every sink gets a published set once for each of its ids. -/
theorem setsTo_handings_publish {reading : Reading} {changes : List Change} (any : changes ≠ [])
    (sink : Sink) :
    setsTo sink (bus.handings (.publish reading changes)) =
      .replicate (bus.sinks.values.count sink) changes := by
  rw [handings_publish any, setsTo, SortedMap.values]
  induction bus.sinks.entries with
  | nil => rfl
  | cons entry rest ih =>
      by_cases here : entry.2 = sink
      · simpa [here, List.replicate_succ] using ih
      · simpa [here] using ih

/-- The sinks of a bus are those of a map, and its receivers and notices tell what a list says. Only
sinks that are there were called, and only such are registered. -/
structure Follows (bus : Bus) (roll : Roll) (log : List Handing) : Prop where
  sinks : ∀ id, bus.sinks.get? id = roll.holder id
  channels : bus.channels = roll.channels
  receivers : ∀ label, bus.receivers.get? label =
    (roll.ends label).map fun number => ⟨number, setsTo (.channel label number) log⟩
  notices : bus.notices = log.filterMap Handing.notice?
  called : ∀ handing ∈ log, bus.Knows handing.sink
  known : bus.AllKnown

theorem follows_blank : empty.Follows .blank [] where
  sinks _ := rfl
  channels := rfl
  receivers _ := rfl
  notices := rfl
  called _ member := absurd member List.not_mem_nil
  known _ _ held := absurd held (Option.some_ne_none _).symm

namespace Follows

theorem knows_iff (follows : bus.Follows roll log) (sink : Sink) :
    bus.Knows sink ↔ roll.Knows sink := by
  cases sink with
  | channel label number =>
      rw [Knows, Roll.Knows, follows.channels]
  | recorder label | reader label => exact Iff.rfl

theorem free_iff (follows : bus.Follows roll log) (spelling : String) :
    Text.trim spelling ≠ "" ∧ bus.sinks.get? (Text.trim spelling) = none ↔
      roll.Free spelling := by
  rw [follows.sinks]
  rfl

/-- A sink is registered that is there. -/
theorem enrol (follows : bus.Follows roll log) (id : String) (knows : bus.Knows sink) :
    Follows { bus with sinks := bus.sinks.insert id sink } (roll.enrol id sink) log where
  sinks other := by
    dsimp only [Roll.enrol]
    rw [SortedMap.get?_insert, Function.update_apply, follows.sinks]
  channels := follows.channels
  receivers := follows.receivers
  notices := follows.notices
  called := follows.called
  known other entry held := by
    dsimp only at held
    rw [SortedMap.get?_insert] at held
    split at held
    · cases held
      exact knows
    · exact follows.known other entry held

/-- A channel is opened. Nobody was called with its number. -/
theorem opened (follows : bus.Follows roll log) (label : String) :
    Follows
      { bus with
        channels := bus.channels + 1
        receivers := bus.receivers.insert label ⟨bus.channels, []⟩ }
      (roll.opened label) log where
  sinks := follows.sinks
  channels := congrArg (· + 1) follows.channels
  receivers other := by
    dsimp only [Roll.opened]
    rw [SortedMap.get?_insert, Function.update_apply, ← follows.channels]
    by_cases here : other = label
    · subst here
      have unheard : setsTo (.channel other bus.channels) log = [] := by
        rw [setsTo, List.map_eq_nil_iff, List.filter_eq_nil_iff]
        intro handing member same
        have before := follows.called handing member
        rw [of_decide_eq_true same] at before
        exact Nat.lt_irrefl _ before
      simp [unheard]
    · rw [if_neg here, if_neg here, follows.receivers]
  notices := follows.notices
  called handing member := (follows.called handing member).mono (Nat.le_succ _)
  known id sink held := (follows.known id sink held).mono (Nat.le_succ _)

theorem act_openChannel (follows : bus.Follows roll log) (spelling label : String) :
    (bus.act (.openChannel spelling label)).Follows (roll.act (.openChannel spelling label))
      log := by
  rw [Roll.act]
  by_cases free : roll.Free spelling
  · obtain ⟨after, done⟩ :=
      (bus.registerChannel_ok_iff spelling label).2 ((follows.free_iff spelling).2 free)
    rw [if_pos free, act_of_ok bus (.openChannel spelling label) trivial done,
      (registerChannel_eq_ok done).2, ← follows.channels]
    exact (follows.opened label).enrol _ (Nat.lt_succ_self bus.channels)
  · rw [if_neg free]
    cases done : bus.registerChannel spelling label with
    | ok after =>
        exact absurd ((follows.free_iff spelling).1
          ((bus.registerChannel_ok_iff spelling label).1 ⟨after, done⟩)) free
    | error cause => rwa [act_of_error bus (.openChannel spelling label) done]

theorem act_register (follows : bus.Follows roll log) (spelling : String) (sink : Sink) :
    (bus.act (.register spelling sink)).Follows (roll.act (.register spelling sink)) log := by
  rw [Roll.act]
  by_cases knows : bus.Knows sink
  · by_cases free : roll.Free spelling
    · have fits := (follows.free_iff spelling).2 free
      rw [if_pos ⟨free, (follows.knows_iff sink).1 knows⟩,
        act_of_ok bus (.register spelling sink) knows (register_of_free fits.1 fits.2)]
      exact follows.enrol _ knows
    · rw [if_neg fun both => free both.1]
      cases done : bus.register spelling sink with
      | ok after =>
          exact absurd ((follows.free_iff spelling).1
            ((bus.register_ok_iff spelling sink).1 ⟨after, done⟩)) free
      | error cause => rwa [act_of_error bus (.register spelling sink) done]
  · have nobody : bus.act (.register spelling sink) = bus := if_neg knows
    rwa [if_neg fun both => knows ((follows.knows_iff sink).2 both.2), nobody]

theorem act_unregister (follows : bus.Follows roll log) (spelling : String) :
    (bus.act (.unregister spelling)).Follows (roll.act (.unregister spelling)) log := by
  cases done : bus.unregister spelling with
  | ok after =>
      rw [act_of_ok bus (.unregister spelling) trivial done, unregister_eq_ok done]
      refine ⟨fun other => ?_, follows.channels, follows.receivers, follows.notices,
        follows.called, fun other sink held => ?_⟩
      · dsimp only [Roll.act]
        rw [SortedMap.get?_erase, Function.update_apply, follows.sinks]
      · dsimp only at held
        rw [SortedMap.get?_erase] at held
        split at held
        · cases held
        · exact follows.known other sink held
  | error cause =>
      have nobody : roll.holder (Text.trim spelling) = none := by
        have fails := mt (bus.unregister_ok_iff spelling).2
          (fun ⟨after, ok⟩ => by rw [done] at ok; cases ok)
        rwa [follows.sinks, Option.not_isSome_iff_eq_none] at fails
      have same : roll.act (.unregister spelling) = roll := by
        rw [Roll.act, ← nobody, Function.update_eq_self]
      rwa [act_of_error bus (.unregister spelling) done, same]

theorem act_publish (follows : bus.Follows roll log) (reading : Reading) (changes : List Change) :
    (bus.act (.publish reading changes)).Follows roll
      (log ++ bus.handings (.publish reading changes)) := by
  rw [act_of_ok bus (.publish reading changes) trivial rfl]
  by_cases any : changes = []
  · subst any
    have nobody : bus.handings (.publish reading []) = [] :=
      List.filterMap_eq_nil_iff.2 fun _ _ => rfl
    rwa [publish_nil, nobody, List.append_nil]
  · have hands := hands_publish reading bus any
    refine ⟨fun id => ?_, hands.channels.trans follows.channels, fun label => ?_, ?_,
      fun handing member => ?_, fun id sink held => ?_⟩
    · rw [hands.sinks, follows.sinks]
    · rw [hands.receivers, follows.receivers, Option.map_map]
      refine congrArg (Option.map · _) (funext fun number => ?_)
      rw [setsTo_append, setsTo_handings_publish any]
      rfl
    · rw [hands.notices, follows.notices, List.filterMap_append, handings_publish any,
        List.filterMap_map, SortedMap.values, List.filterMap_map]
      rfl
    · rcases List.mem_append.1 member with before | now
      · exact (follows.called handing before).mono (Nat.le_of_eq hands.channels.symm)
      · rw [handings_publish any] at now
        obtain ⟨entry, registered, rfl⟩ := List.mem_map.1 now
        exact (follows.known entry.1 entry.2 ((bus.sinks.get?_eq_some_iff _ _).2 registered)).mono
          (Nat.le_of_eq hands.channels.symm)
    · rw [hands.sinks] at held
      exact (follows.known id sink held).mono (Nat.le_of_eq hands.channels.symm)

theorem act_dropReceiver (follows : bus.Follows roll log) (label : String) :
    (bus.act (.dropReceiver label)).Follows (roll.act (.dropReceiver label)) log where
  sinks := follows.sinks
  channels := follows.channels
  receivers other := by
    dsimp only [Roll.act]
    rw [act_of_ok bus (.dropReceiver label) trivial rfl, dropReceiver, SortedMap.get?_erase,
      Function.update_apply]
    split
    · rfl
    · exact follows.receivers other
  notices := follows.notices
  called := follows.called
  known := follows.known

/-- **A call keeps the bus in step with the map and the list.** -/
theorem act (follows : bus.Follows roll log) (call : Call) :
    (bus.act call).Follows (roll.act call) (log ++ bus.handings call) := by
  have quiet (nothing : ∀ entry, call.handing? entry = none) : bus.handings call = [] :=
    List.filterMap_eq_nil_iff.2 fun entry _ => nothing entry
  cases call with
  | openChannel spelling label =>
      rw [quiet fun _ => rfl, List.append_nil]
      exact follows.act_openChannel spelling label
  | register spelling sink =>
      rw [quiet fun _ => rfl, List.append_nil]
      exact follows.act_register spelling sink
  | unregister spelling =>
      rw [quiet fun _ => rfl, List.append_nil]
      exact follows.act_unregister spelling
  | publish reading changes => exact follows.act_publish reading changes
  | dropReceiver label =>
      rw [quiet fun _ => rfl, List.append_nil]
      exact follows.act_dropReceiver label

end Follows

/-! ## Any calls -/

theorem handed_append (bus : Bus) (first second : List Call) :
    bus.handed (first ++ second) = bus.handed first ++ (bus.actAll first).handed second := by
  induction first generalizing bus with
  | nil => rfl
  | cons call rest ih =>
      rw [List.cons_append, handed, handed, ih, List.append_assoc]
      rfl

theorem actAll_append (bus : Bus) (first second : List Call) :
    bus.actAll (first ++ second) = (bus.actAll first).actAll second := List.foldl_append

theorem Follows.actAll (follows : bus.Follows roll log) (calls : List Call) :
    (bus.actAll calls).Follows (roll.actAll calls) (log ++ bus.handed calls) := by
  induction calls generalizing bus roll log with
  | nil =>
      rw [handed, List.append_nil]
      exact follows
  | cons call rest ih =>
      rw [handed, ← List.append_assoc]
      exact ih (follows.act call)

/-- **Through any calls a bus stays in step with the map, and its sinks have got what they were
handed.** -/
theorem follows_actAll (calls : List Call) :
    (empty.actAll calls).Follows (Roll.blank.actAll calls) (empty.handed calls) :=
  follows_blank.actAll calls

namespace Follows

/-- The sink of an id is handed what is published, once. -/
theorem handings_at (follows : bus.Follows roll log) (held : roll.holder id = some sink)
    (call : Call) :
    (bus.handings call).filter (fun handing => handing.id = id) =
      (call.handing? (id, sink)).toList := by
  have entry : bus.sinks.entries.filter (fun entry => entry.1 = id) = [(id, sink)] := by
    rw [SortedMap.filter_entries, follows.sinks, held]
    rfl
  have named : (bus.handings call).filter (fun handing => handing.id = id) =
      (bus.sinks.entries.filter fun entry => entry.1 = id).filterMap call.handing? := by
    rw [handings, List.filter_filterMap, List.filterMap_filter]
    refine List.filterMap_congr fun entry _ => ?_
    cases call with
    | publish reading changes =>
        by_cases here : entry.1 = id <;> cases none : changes.isEmpty <;>
          simp [Call.handing?, here, none]
    | openChannel | register | unregister | dropReceiver => simp [Call.handing?]
  rw [named, entry]
  cases given : call.handing? (id, sink) <;> simp [given]

/-- **As long as a sink is registered it is handed exactly what is published.** -/
theorem handed_while_held (follows : bus.Follows roll log) (held : roll.holder id = some sink)
    {calls : List Call} (stays : ∀ call ∈ calls, call.removes id = false) :
    (bus.handed calls).filter (fun handing => handing.id = id) =
      calls.filterMap (Call.handing? · (id, sink)) := by
  induction calls generalizing bus roll log with
  | nil => rfl
  | cons call rest ih =>
      obtain ⟨first, later⟩ := List.forall_mem_cons.1 stays
      rw [handed, List.filter_append, follows.handings_at held,
        ih (follows.act call) (Roll.holder_act_of_held held first) later, List.filterMap_cons]
      cases call.handing? (id, sink) <;> rfl

/-- A sink that is not registered is handed nothing. -/
theorem handings_to_nobody (follows : bus.Follows roll log)
    (nobody : ∀ id, roll.holder id ≠ some sink) (call : Call) :
    (bus.handings call).filter (fun handing => handing.sink = sink) = [] := by
  refine List.filter_eq_nil_iff.2 fun handing member same => ?_
  obtain ⟨⟨id, other⟩, registered, given⟩ := List.mem_filterMap.1 member
  have held := (bus.sinks.get?_eq_some_iff _ _).2 registered
  cases call with
  | publish reading changes =>
      rw [Call.handing?, Option.ite_none_left_eq_some] at given
      cases given.2
      rw [follows.sinks, show other = sink from of_decide_eq_true same] at held
      exact nobody id held
  | openChannel | register | unregister | dropReceiver => cases given

theorem handed_to_nobody (follows : bus.Follows roll log)
    (nobody : ∀ id, roll.holder id ≠ some sink) {calls : List Call}
    (never : sink ∉ (roll.enrolments calls).map Prod.snd) :
    (bus.handed calls).filter (fun handing => handing.sink = sink) = [] := by
  induction calls generalizing bus roll log with
  | nil => rfl
  | cons call rest ih =>
      rw [Roll.enrolments, List.map_append, List.mem_append, not_or] at never
      have still (id : String) : (roll.act call).holder id ≠ some sink := by
        intro held
        obtain ⟨_, before | enrolled⟩ := Roll.held_or_enrolled held
        · exact nobody id before
        · exact never.1 (by simp [enrolled])
      rw [handed, List.filter_append, follows.handings_to_nobody nobody,
        ih (follows.act call) still never.2]
      rfl

/-- A sink with one id is handed what is handed to that id. -/
theorem handings_to (follows : bus.Follows roll log)
    (alone : ∀ other, roll.holder other = some sink ↔ other = id) (call : Call) :
    (bus.handings call).filter (fun handing => handing.sink = sink) =
      (call.handing? (id, sink)).toList := by
  rw [← follows.handings_at ((alone id).2 rfl)]
  refine List.filter_congr fun handing member => ?_
  obtain ⟨⟨other, entry⟩, registered, given⟩ := List.mem_filterMap.1 member
  have held := (bus.sinks.get?_eq_some_iff _ _).2 registered
  rw [follows.sinks] at held
  cases call with
  | publish reading changes =>
      rw [Call.handing?, Option.ite_none_left_eq_some] at given
      cases given.2
      have same : entry = sink ↔ other = id := by
        rw [← alone other, held, Option.some.injEq]
      simp [same]
  | openChannel | register | unregister | dropReceiver => cases given

/-- **A sink that is registered under one id and not again is handed what is published until it is
removed**, and nothing else. -/
theorem handed_to (follows : bus.Follows roll log)
    (alone : ∀ other, roll.holder other = some sink ↔ other = id) {calls : List Call}
    (once : sink ∉ (roll.enrolments calls).map Prod.snd) :
    (bus.handed calls).filter (fun handing => handing.sink = sink) =
      (calls.takeWhile fun call => !call.removes id).filterMap (Call.handing? · (id, sink)) := by
  induction calls generalizing bus roll log with
  | nil => rfl
  | cons call rest ih =>
      rw [Roll.enrolments, List.map_append, List.mem_append, not_or] at once
      have others {other : String} (held : (roll.act call).holder other = some sink) :
          call.removes other = false ∧ other = id := by
        obtain ⟨stays, before | enrolled⟩ := Roll.held_or_enrolled held
        · exact ⟨stays, (alone other).1 before⟩
        · exact absurd (by simp [enrolled]) once.1
      rw [handed, List.filter_append, follows.handings_to alone]
      cases removed : call.removes id with
      | true =>
          -- A call that removes a sink hands nothing out, and then nobody has the sink.
          have silent : call.handing? (id, sink) = none := by
            cases call with
            | publish => cases removed
            | openChannel | register | unregister | dropReceiver => rfl
          have nobody (other : String) : (roll.act call).holder other ≠ some sink := by
            intro held
            obtain ⟨stays, rfl⟩ := others held
            rw [removed] at stays
            cases stays
          rw [(follows.act call).handed_to_nobody nobody once.2, silent]
          simp [removed]
      | false =>
          have still (other : String) :
              (roll.act call).holder other = some sink ↔ other = id := by
            refine ⟨fun held => (others held).2, ?_⟩
            rintro rfl
            exact Roll.holder_act_of_held ((alone other).2 rfl) removed
          rw [ih (follows.act call) still once.2]
          cases given : call.handing? (id, sink) <;> simp [removed, given]

end Follows

/-- **A sink that is registered once is handed exactly what is published until it is removed.** -/
theorem handed_of_enrolled {before later : List Call}
    (enrolled : (Roll.blank.actAll before).enrolled? call = some (id, sink))
    (once : ((Roll.blank.enrolments (before ++ call :: later)).map Prod.snd).count sink = 1) :
    (empty.handed (before ++ call :: later)).filter (fun handing => handing.sink = sink) =
      (later.takeWhile fun call => !call.removes id).filterMap (Call.handing? · (id, sink)) := by
  -- The sink is registered neither before nor later.
  rw [Roll.enrolments_append, Roll.enrolments, enrolled] at once
  simp only [Option.toList_some, List.map_append, List.map_cons, List.map_nil,
    List.count_append, List.count_singleton_self] at once
  have never : sink ∉ (Roll.blank.enrolments before).map Prod.snd :=
    List.count_eq_zero.1 (by omega)
  have never' : sink ∉ (((Roll.blank.actAll before).act call).enrolments later).map Prod.snd :=
    List.count_eq_zero.1 (by omega)
  have alone (other : String) :
      ((Roll.blank.actAll before).act call).holder other = some sink ↔ other = id := by
    refine ⟨fun found => ?_, fun same => same ▸ Roll.holder_act_of_enrolled enrolled⟩
    obtain ⟨_, earlier | given⟩ := Roll.held_or_enrolled found
    · exact absurd (Roll.mem_enrolments_of_held earlier) never
    · rw [enrolled] at given
      cases given
      rfl
  have silent : (empty.actAll before).handings call = [] :=
    List.filterMap_eq_nil_iff.2 fun _ _ => Roll.handing?_of_enrolled enrolled _
  rw [handed_append, handed, silent, List.filter_append, List.nil_append,
    follows_blank.handed_to_nobody (fun _ => nofun) never,
    ((follows_actAll before).act call).handed_to alone never']
  rfl

/-! ## Ids and publication -/

/-- The ids of a bus strictly increase. -/
theorem sinkIds_increasing (bus : Bus) : bus.sinkIds.Pairwise (· < ·) :=
  List.pairwise_map.2 (bus.sinks.increasing.imp compareOfLessAndEq_eq_lt.1)

/-- A set that is published is handed out in the order of the ids. -/
theorem handings_increasing (bus : Bus) (call : Call) :
    (bus.handings call).Pairwise fun earlier later => earlier.id < later.id := by
  refine List.pairwise_filterMap.2 (bus.sinks.increasing.imp ?_)
  intro earlier later smaller first called second calledLater
  cases call with
  | publish reading changes =>
      rw [Call.handing?, Option.ite_none_left_eq_some] at called calledLater
      cases called.2
      cases calledLater.2
      exact compareOfLessAndEq_eq_lt.1 smaller
  | openChannel | register | unregister | dropReceiver => cases called

/-- Publishing is calling the sinks to which the set is handed, one after the other. -/
theorem publish_eq_deliverAll (bus : Bus) (reading : Reading) (changes : List Change) :
    (bus.publish reading changes).1 = (bus.deliverAll reading changes
      ((bus.handings (.publish reading changes)).map Handing.sink)).1 := by
  by_cases any : changes = []
  · subst any
    have nobody : bus.handings (.publish reading []) = [] :=
      List.filterMap_eq_nil_iff.2 fun _ _ => rfl
    rw [publish_nil, nobody]
    rfl
  · rw [publish, if_neg (by simpa using any), handings_publish any, List.map_map]
    rfl

/-- A set that is not empty is handed to the sinks of all ids, and to nobody else. -/
theorem Follows.mem_handings_publish (follows : bus.Follows roll log) {reading : Reading}
    {changes : List Change} {handing : Handing} :
    handing ∈ bus.handings (.publish reading changes) ↔
      changes ≠ [] ∧ handing.reading = reading ∧ handing.changes = changes ∧
        roll.holder handing.id = some handing.sink := by
  rw [handings, List.mem_filterMap, ← follows.sinks, SortedMap.get?_eq_some_iff]
  constructor
  · rintro ⟨entry, registered, given⟩
    rw [Call.handing?, Option.ite_none_left_eq_some] at given
    obtain ⟨any, same⟩ := given
    cases same
    exact ⟨by simpa using any, rfl, rfl, registered⟩
  · obtain ⟨id, sink, handed, given⟩ := handing
    rintro ⟨any, rfl, rfl, registered⟩
    exact ⟨(id, sink), registered, if_neg (by simpa using any)⟩

end Bus

/-- **The sinks of a bus are a finite map on trimmed ids.** Take a new bus and any calls on it, and
the map that the calls make of no sinks at all (`Bus.Roll`). The bus has under every id the sink of
the map. Registering succeeds exactly if the trimmed id is not empty and has no sink, removing
exactly if the trimmed id has one, and a call that fails changes nothing. The ids of the bus
strictly increase; they are those with a sink, trimmed and not empty.

A set that is published is handed to the sinks of all ids in the order of the ids, unless it is
empty. The receivers that are there have got, and notes were made of, what was handed out so far, in
that order. Take any call that registers a sink. Until its id is removed it is handed exactly the
sets that are published and are not empty, each once and in order; and if no other call registers
the sink, it is handed nothing else. -/
theorem sink_registry_is_a_finite_map (calls : List Bus.Call) :
    let bus := Bus.empty.actAll calls
    let roll := Bus.Roll.blank.actAll calls
    let log := Bus.empty.handed calls
    (∀ id, bus.sinks.get? id = roll.holder id) ∧
    (∀ spelling sink, (∃ after, bus.register spelling sink = .ok after) ↔ roll.Free spelling) ∧
    (∀ spelling label, (∃ after, bus.registerChannel spelling label = .ok after) ↔
      roll.Free spelling) ∧
    (∀ spelling, (∃ after, bus.unregister spelling = .ok after) ↔
      (roll.holder (Text.trim spelling)).isSome) ∧
    (∀ call cause, bus.result call = .error cause → bus.act call = bus) ∧
    (bus.sinkIds.Pairwise (· < ·) ∧ (∀ id, id ∈ bus.sinkIds ↔ (roll.holder id).isSome) ∧
      ∀ id ∈ bus.sinkIds, id ≠ "" ∧ Text.trim id = id) ∧
    (∀ reading changes,
      let handings := bus.handings (.publish reading changes)
      (bus.publish reading changes).1 =
        (bus.deliverAll reading changes (handings.map Bus.Handing.sink)).1 ∧
      handings.Pairwise (fun earlier later => earlier.id < later.id) ∧
      ∀ handing, handing ∈ handings ↔
        changes ≠ [] ∧ handing.reading = reading ∧ handing.changes = changes ∧
          roll.holder handing.id = some handing.sink) ∧
    (∀ label, bus.receivers.get? label =
      (roll.ends label).map fun number => ⟨number, Bus.setsTo (.channel label number) log⟩) ∧
    bus.notices = log.filterMap Bus.Handing.notice? ∧
    (∀ before call later id sink, calls = before ++ call :: later →
      (Bus.Roll.blank.actAll before).enrolled? call = some (id, sink) →
        let during := later.takeWhile fun call => !call.removes id
        let published := during.filterMap (Bus.Call.handing? · (id, sink))
        ((Bus.empty.actAll (before ++ [call])).handed during).filter
          (fun handing => handing.id = id) = published ∧
        (((Bus.Roll.blank.enrolments calls).map Prod.snd).count sink = 1 →
          log.filter (fun handing => handing.sink = sink) = published)) := by
  intro bus roll log
  have follows : bus.Follows roll log := Bus.follows_actAll calls
  have ids (id : String) : id ∈ bus.sinkIds ↔ (roll.holder id).isSome := by
    rw [← follows.sinks]
    exact bus.sinks.mem_keys_iff id
  refine ⟨follows.sinks,
    fun spelling sink => (bus.register_ok_iff spelling sink).trans (follows.free_iff spelling),
    fun spelling label =>
      (bus.registerChannel_ok_iff spelling label).trans (follows.free_iff spelling),
    fun spelling => ?_, fun call cause => bus.act_of_error call,
    ⟨bus.sinkIds_increasing, ids, fun id member => ?_⟩,
    fun reading changes => ⟨bus.publish_eq_deliverAll reading changes, bus.handings_increasing _,
      fun handing => follows.mem_handings_publish⟩,
    follows.receivers, follows.notices, ?_⟩
  · rw [← follows.sinks]
    exact bus.unregister_ok_iff spelling
  · exact Bus.Roll.named_actAll calls id (Option.isSome_iff_ne_none.1 ((ids id).1 member))
  · intro before call later id sink split enrolled during published
    have start := (Bus.follows_actAll before).act call
    have held := Bus.Roll.holder_act_of_enrolled enrolled
    subst split
    rw [Bus.actAll_append]
    refine ⟨start.handed_while_held held fun call member => ?_, Bus.handed_of_enrolled enrolled⟩
    simpa using List.mem_takeWhile_imp member

/-- The channel under an id with blanks around it gets what is published before the id is removed,
and not what is published later. -/
theorem channel_misses_what_is_published_later :
    let gone : Change := .deleted ⟨.tab, "t"⟩
    let later : Change := .deleted ⟨.tab, "u"⟩
    let reading : Reading := ⟨.ok 0, []⟩
    let calls : List Bus.Call := [.openChannel " ui " "ui", .publish reading [],
      .publish reading [gone], .unregister "ui", .publish reading [later]]
    let sink := Sink.channel "ui" 0
    Bus.Roll.blank.enrolled? (.openChannel " ui " "ui") = some ("ui", sink) ∧
      ((Bus.Roll.blank.enrolments calls).map Prod.snd).count sink = 1 ∧
      (Bus.empty.actAll calls).receivers.get? "ui" = some ⟨0, [[gone]]⟩ := by
  intro gone later reading calls sink
  have enrolled : Bus.Roll.blank.enrolled? (.openChannel " ui " "ui") = some ("ui", sink) := by
    decide +kernel
  have once : ((Bus.Roll.blank.enrolments calls).map Prod.snd).count sink = 1 := by
    decide +kernel
  have ends : (Bus.Roll.blank.actAll calls).ends "ui" = some 0 := by decide +kernel
  obtain ⟨_, _, _, _, _, _, _, receivers, _, each⟩ := sink_registry_is_a_finite_map calls
  obtain ⟨_, all⟩ := each [] _ _ "ui" sink rfl enrolled
  refine ⟨enrolled, once, ?_⟩
  rw [receivers "ui", ends, Option.map_some, Bus.setsTo, all once]
  refine congrArg (fun sets => some (Receiver.mk 0 sets)) ?_
  decide +kernel

end ScopedStore
