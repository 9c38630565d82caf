import ScopedStore.Logging.Event
import ScopedStore.Model.Change
import ScopedStore.Text.Pieces

/-!
# Delivery of changes

A bus hands every set of changes that is published on it to the sinks that are registered then,
in the order of their ids. The id of a sink is a text without the blanks around it, and it is
never empty. An empty set is handed to nobody.

There are three sorts of sinks. A channel passes the set on to its receiver, and when the
receiver is gone the set is dropped and nobody else is disturbed. Receivers have labels, and a new
receiver of a label takes the place of an older one, which is gone then. A recorder notes the
addresses of the changed objects. A reader looks into the store while it is called, and notes what
it sees; what it would see is given to the bus by the owner of the store (`Reading`).
-/

set_option autoImplicit false

namespace ScopedStore

/-- What is done with a set of changes. It goes to the receiver of a label and a number, or its
addresses are noted under a label, or the number of tabs in the store is read and noted under a
label. -/
inductive Sink
  | channel (label : String) (number : Nat)
  | recorder (label : String)
  | reader (label : String)
  deriving DecidableEq, Repr

/-- What a sink noted when it was called: the addresses of the changed objects, or the number of
changes and the number of tabs in the store. -/
inductive Notice
  | addresses (label : String) (refs : List Ref)
  | tabs (label : String) (changes : Nat) (tabs : Except StoreError Nat)

/-- What a reader finds in the store, and what is logged when it looks. -/
structure Reading where
  tabs : Except StoreError Nat
  log : List Event

/-- Why a sink cannot be registered, or removed. There is nothing but blanks in the id, or there is
a sink of that id, or there is none; then the id is given as the caller spelled it. -/
inductive BusError
  | invalidId (id : String)
  | duplicateId (id : String)
  | unknownId (spelling : String)
  deriving DecidableEq, Repr

/-- The message of a sink that cannot be registered, or removed. -/
def BusError.message : BusError → String
  | invalidId id => "sink id is invalid: " ++ Text.quoted id
  | duplicateId id => s!"sink id already registered: {id}"
  | unknownId spelling => s!"sink not found: {spelling}"

/-- The receiving end of a channel: the number of the channel, and the sets that were received, the
earliest first. -/
structure Receiver where
  number : Nat
  received : List (List Change)

/-- The registered sinks by their ids, the number of channels that were ever opened, the receivers
that are still there by their labels, and what sinks have noted, the earliest first. -/
structure Bus where
  sinks : SortedMap String Sink
  channels : Nat
  receivers : SortedMap String Receiver
  notices : List Notice

namespace Bus

/-- A bus without sinks. -/
def empty : Bus := ⟨∅, 0, ∅, []⟩

/-! ## Registration -/

/-- Registers a sink under an id that is free. -/
def register (bus : Bus) (spelling : String) (sink : Sink) : Except BusError Bus :=
  let id := Text.trim spelling
  if id.isEmpty then .error (.invalidId id)
  else if bus.sinks.contains id then .error (.duplicateId id)
  else .ok { bus with sinks := bus.sinks.insert id sink }

/-- Removes the sink of an id. -/
def unregister (bus : Bus) (spelling : String) : Except BusError Bus :=
  let id := Text.trim spelling
  if bus.sinks.contains id then .ok { bus with sinks := bus.sinks.erase id }
  else .error (.unknownId spelling)

/-- The ids of the sinks, in order. -/
def sinkIds (bus : Bus) : List String := bus.sinks.keys

/-! ## Channels -/

/-- Registers the sink of a new channel, whose receiver has a label. An older receiver of the
label stays unless the sink is registered. -/
def registerChannel (bus : Bus) (spelling label : String) : Except BusError Bus :=
  (bus.register spelling (.channel label bus.channels)).map fun bus =>
    { bus with
      channels := bus.channels + 1
      receivers := bus.receivers.insert label ⟨bus.channels, []⟩ }

/-- Drops the receiver of a label. -/
def dropReceiver (bus : Bus) (label : String) : Bus :=
  { bus with receivers := bus.receivers.erase label }

/-- Hands a set of changes to the receiver of a channel, if it is still there. -/
def send (bus : Bus) (label : String) (number : Nat) (changes : List Change) : Option Bus :=
  match bus.receivers.get? label with
  | none => none
  | some receiver =>
      if receiver.number = number then
        let receiver := { receiver with received := receiver.received ++ [changes] }
        some { bus with receivers := bus.receivers.insert label receiver }
      else none

/-! ## Publication -/

/-- Calls one sink. -/
def deliver (bus : Bus) (reading : Reading) (changes : List Change) :
    Sink → Bus × List Event
  | .channel label number =>
      match bus.send label number changes with
      | some bus => (bus, [])
      | none => (bus, [.undelivered])
  | .recorder label =>
      let notice := .addresses label (changes.map Change.ref)
      ({ bus with notices := bus.notices ++ [notice] }, [])
  | .reader label =>
      let notice := .tabs label changes.length reading.tabs
      ({ bus with notices := bus.notices ++ [notice] }, reading.log)

/-- Calls sinks one after the other. -/
def deliverAll (bus : Bus) (reading : Reading) (changes : List Change) :
    List Sink → Bus × List Event
  | [] => (bus, [])
  | sink :: rest =>
      let (bus, first) := bus.deliver reading changes sink
      let (bus, later) := bus.deliverAll reading changes rest
      (bus, first ++ later)

/-- Publishes a set of changes, and gives what is logged meanwhile. -/
def publish (bus : Bus) (reading : Reading) (changes : List Change) : Bus × List Event :=
  if changes.isEmpty then (bus, [])
  else
    let (called, log) := bus.deliverAll reading changes bus.sinks.values
    (called, log ++ [.published changes.length bus.sinks.size])

/-- Forgets what was received and noted so far. -/
def forget (bus : Bus) : Bus where
  sinks := bus.sinks
  channels := bus.channels
  receivers := .ofList (bus.receivers.entries.map fun (label, receiver) =>
    (label, { receiver with received := [] }))
  notices := []

end Bus

end ScopedStore
