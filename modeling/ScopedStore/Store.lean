import ScopedStore.Database.Link
import ScopedStore.Database.Opening
import ScopedStore.Store.Bus
import ScopedStore.Store.Config
import ScopedStore.Store.Work

/-!
# The store

A store owns a database and a bus. Its callers run transactions: work on a handle, inside one
scope that covers all of it. What the work does becomes the content of the database only when the
scope is kept and the commit succeeds; in every other case the content is as it was before.

A *tracked* transaction records its changes, and after a successful commit the bus delivers them.
An *untracked* one records nothing, and waits for a locked file only as long as the setting for
the first data allows. A read-only transaction has no changes to deliver, and delivers nothing.

Work that gives up leaves the database alone like work that fails. The one thing that it skips is
putting the usual waiting time back behind an untracked transaction.
-/

set_option autoImplicit false

namespace ScopedStore

/-- Why the store gives no result at all: an operation of the store failed, or the program gave
up. -/
inductive Refusal
  | failure (cause : StoreError)
  | panic (message : String)
  deriving DecidableEq, Repr

/-- A store: the settings that it was opened with, the names of its place, if it lives in a file,
and the committed content of its database. At the moment, a transaction waits for a locked file as
many milliseconds as its busy timeout, and another connection may be at the file. The bus tells
others about changes, new ids come from a source, the time is in milliseconds, and the log has what
has been logged, in order. -/
structure Store where
  config : Config
  place : Option (List String)
  database : Database
  busyTimeout : Nat
  contention : Contention
  bus : Bus
  ids : IdSource
  now : Int
  log : List Event

namespace Store

/-- The store after some events. -/
def noteAll (store : Store) (events : List Event) : Store :=
  { store with log := store.log ++ events }

/-- The store after an event. -/
def note (store : Store) (event : Event) : Store := store.noteAll [event]

/-! ## Opening -/

/-- What the engine says to a timeout for which it has no room. -/
def timeoutTooLong : String := "too big"

/-- The milliseconds that the engine keeps of a timeout. -/
def engineTimeout (timeout : Timeout) : Except Refusal Nat :=
  match timeout.forEngine? with
  | some milliseconds => .ok milliseconds
  | none => .error (.panic timeoutTooLong)

/-- Where the database of a store lives. -/
def storageMode (config : Config) : StorageMode :=
  if config.path.isSome then .file else .memory

/-- What the opening of a store gives: the store or why there is none, what was logged, and the
files afterwards. -/
structure Opening where
  result : Except Refusal Store
  log : List Event
  files : FileTree

/-- Opens a store; a file that others have locked cannot be changed meanwhile. Refused settings
touch no file. -/
def openIn (files : FileTree) (locks : Locks) (config : Config) (ids : IdSource) (now : Int) :
    Opening :=
  match config.validate with
  | .error cause => ⟨.error (.failure (.config cause)), [], files⟩
  | .ok () =>
      let mode := storageMode config
      let (link, files) := files.openDatabase none config.path
      let (found, files) : Except DatabaseError Found × FileTree := match link with
        | .ok link =>
            let (found, files) := link.findUnder locks files
            (found.mapError .engine, files)
        | .error cause => (.error cause, files)
      match link, Database.bootstrap mode found with
      | .ok link, (.ok database, log) =>
          let files := files.keep link.place? database
          match engineTimeout config.busyTimeout with
          | .error refusal => ⟨.error refusal, log, files⟩
          | .ok busyTimeout =>
              let log := log ++ [.storeReady mode]
              let store : Store :=
                { config, place := link.place?, database, busyTimeout, bus := .empty, ids, now, log,
                  contention := locks.on link.place? }
              ⟨.ok store, log, files⟩
      | .error cause, (_, log) | _, (.error cause, log) =>
          ⟨.error (.failure (.ofDatabase cause)), log, files⟩

/-- The store when its file may have been changed by others meanwhile. -/
def refresh (store : Store) (files : FileTree) : Store :=
  match store.place.map files.content with
  | some (.ok database) => { store with database }
  | some (.error _) | none => store

/-- The files with what the store holds. -/
def saveTo (store : Store) (files : FileTree) : FileTree :=
  files.keep store.place store.database

/-! ## Transactions -/

/-- How a transaction went. It could not begin, and the work was not done; or the work was done.
When it was kept and the commit succeeded there are the changes that were committed; when it was not
kept there are none. -/
inductive Outcome (α : Type)
  | refused (cause : StoreError)
  | ended (value : α) (changes : Except StoreError (List Change))

/-- The store after a transaction has run, before its content is taken over. -/
def absorb (store : Store) (handle : Handle) : Store :=
  { store with ids := handle.ids, log := store.log ++ handle.log }

/-- Takes over what a transaction leaves, unless somebody is reading the file. -/
def commit (store : Store) (handle : Handle) : Except StoreError (List Change) × Store :=
  if store.contention = .reading then (.error (.ofEngine .locked), store)
  else
    let changes := handle.finish
    let store := { store with database := handle.content }
    (.ok changes, store.note (.committed handle.tracked changes.length))

/-- Runs work as one transaction. -/
def attempt {α : Type} (store : Store) (tracked : Bool) (work : Work α) (ending : α → Ending) :
    Outcome α × Store :=
  if store.contention = .writing then (.refused (.ofEngine .locked), store)
  else
    let start := Handle.start store.database tracked store.ids store.now
    let ((value, closing), handle) :=
      (Work.scope work ending fun value closing => .done (value, closing)).run start
    let store := store.absorb handle
    match ending value, closing with
    | .keep, .ok () =>
        let (changes, store) := store.commit handle
        (.ended value changes, store)
    | .keep, .error cause => (.ended value (.error cause), store.note (.rolledBack tracked))
    | .discard, _ => (.ended value (.ok []), store.note (.rolledBack tracked))
    | .unwind, _ => (.ended value (.ok []), store)

/-- The answer of work that may fail in a transaction, with the changes that were committed. -/
def Outcome.answer {α : Type} :
    Outcome (Except StoreError α) → Except StoreError (α × List Change)
  | refused cause => .error cause
  | ended (.error cause) _ => .error cause
  | ended (.ok _) (.error cause) => .error cause
  | ended (.ok value) (.ok changes) => .ok (value, changes)

/-- The number of tabs in the store, as a transaction of its own. -/
def countTabs (store : Store) : Except StoreError Nat × Store :=
  let (outcome, store) :=
    store.attempt true (Transaction.ask (.count .tab)).run Transaction.ending
  (outcome.answer.map Prod.fst, store)

/-- What a sink finds that reads the store while it is called. -/
def reading (store : Store) : Reading :=
  let (tabs, after) := { store with log := [] }.countTabs
  ⟨tabs, after.log⟩

/-- Delivers changes to the registered sinks. -/
def publish (store : Store) (changes : List Change) : Store :=
  let (bus, log) := store.bus.publish store.reading changes
  { store with bus }.noteAll log

/-- Runs work as one tracked transaction and delivers its changes. -/
def runTracked {α : Type} (store : Store) (work : Work α) (ending : α → Ending) :
    Outcome α × Store :=
  match store.attempt true work ending with
  | (.ended value (.ok changes), store) => (.ended value (.ok changes), store.publish changes)
  | other => other

/-- Puts the usual waiting time back. -/
def restoreTimeout (store : Store) : Store :=
  match engineTimeout store.config.busyTimeout with
  | .ok busyTimeout => { store with busyTimeout }
  | .error _ => store

/-- Runs work as one transaction that records nothing, with the waiting time for the first
data. -/
def runUntracked {α : Type} (store : Store) (work : Work α) (ending : α → Ending) :
    Except Refusal (Outcome α) × Store :=
  match engineTimeout store.config.initialTimeout with
  | .error refusal => (.error refusal, store)
  | .ok initialTimeout =>
      match { store with busyTimeout := initialTimeout }.attempt false work ending with
      | (.refused cause, store) => (.ok (.refused cause), store.restoreTimeout)
      | (.ended value changes, store) =>
          match ending value with
          | .unwind => (.ok (.ended value changes), store)
          | .keep | .discard => (.ok (.ended value changes), store.restoreTimeout)

/-! ## Transactions that may fail -/

/-- Runs work that may fail as one tracked transaction, and gives the changes as well. -/
def transact {α : Type} (store : Store) (work : Transaction α) :
    Except StoreError (α × List Change) × Store :=
  let (outcome, store) := store.runTracked work.run Transaction.ending
  (outcome.answer, store)

/-- Runs work that may fail as one tracked transaction. -/
def transactValue {α : Type} (store : Store) (work : Transaction α) :
    Except StoreError α × Store :=
  let (result, store) := store.transact work
  (result.map Prod.fst, store)

/-- Runs work that may fail as one transaction that records nothing. -/
def transactUntracked {α : Type} (store : Store) (work : Transaction α) :
    Except Refusal α × Store :=
  match store.runUntracked work.run Transaction.ending with
  | (.error refusal, store) => (.error refusal, store)
  | (.ok outcome, store) =>
      match outcome.answer with
      | .ok (value, _) => (.ok value, store)
      | .error cause => (.error (.failure cause), store)

end Store

end ScopedStore
