import ScopedStore.Store.Error

/-!
# What is logged

The log tells what happened to the store and never what the objects hold: an event carries kinds,
ids, versions, depths and numbers, and there is no room in it for a name, a body or free data.
The message of an event is a function of the event alone.

How long an opening took is not part of the event; its message has a mark in that place.
-/

set_option autoImplicit false

namespace ScopedStore

/-- How much an event matters, from the least to the most. -/
inductive LogLevel
  | trace
  | debug
  | info
  | warn
  | error
  deriving DecidableEq, Repr, Inhabited

namespace LogLevel

/-- The name of a level in settings. -/
def name : LogLevel → String
  | trace => "trace"
  | debug => "debug"
  | info => "info"
  | warn => "warn"
  | error => "error"

/-- The word for a level in front of a logged line. -/
def label : LogLevel → String
  | trace => "TRACE"
  | debug => "DEBUG"
  | info => "INFO"
  | warn => "WARN"
  | error => "ERROR"

/-- All levels in order. -/
def all : List LogLevel := [trace, debug, info, warn, error]

/-- The place of a level in the order. -/
def rank : LogLevel → Nat
  | trace => 0
  | debug => 1
  | info => 2
  | warn => 3
  | error => 4

end LogLevel

/-- Where a database lives. -/
inductive StorageMode
  | file
  | memory
  deriving DecidableEq, Repr

/-- The word for where a database lives. -/
def StorageMode.name : StorageMode → String
  | file => "file"
  | memory => "memory"

/-- Something that is logged. Of a program that gave up, the summary is all that is told of the
reason. When a scope is rolled back the stack of changes is told, by its height and by the addresses
in each of its frames. A set of changes is not delivered where nobody listens any more. -/
inductive Event
  | started
  | loggingActive (level : LogLevel) (directory : String)
  | panicCaptured (summary : String)
  | opening (mode : StorageMode)
  | opened (mode : StorageMode)
  | openFailed (mode : StorageMode) (cause : DatabaseError)
  | migrated (oldVersion newVersion : Nat)
  | storeReady (mode : StorageMode)
  | scopeOpened (depth : Nat)
  | scopeCommitted (depth : Nat)
  | scopeRolledBack (depth : Nat)
  | scopeRollbackFailed (depth : Nat) (cause : StoreError)
  | changeStack (height : Nat)
  | changeFrame (place : Nat) (addresses : List String)
  | inserted (kind : Kind)
  | updated (kind : Kind) (version : Int)
  | deleted (kind : Kind)
  | committed (tracked : Bool) (changes : Nat)
  | rolledBack (tracked : Bool)
  | published (changes sinks : Nat)
  | undelivered
  | seeded (clientId : String)
  | seedingSkipped
  deriving DecidableEq, Repr

namespace Event

/-- The version of the program. -/
def programVersion : String := "0.1.0"

/-- How much an event matters. -/
def level : Event → LogLevel
  | started | loggingActive .. | opening _ | opened _ | migrated .. | storeReady _ | seeded _
  | seedingSkipped => .info
  | panicCaptured _ | openFailed .. | scopeRollbackFailed .. => .error
  | undelivered => .warn
  | _ => .debug

/-- What stands for the time that something took, and for a place in the program. -/
def masked : String := "_"

/-- The message of an event. -/
def message : Event → String
  | started =>
      s!"event=app_start module=core status=ok platform=linux version={programVersion}"
  | loggingActive level directory =>
      s!"event=core_init module=core status=ok level={level.name} log_dir={directory}"
  | panicCaptured summary =>
      s!"event=panic_captured module=core status=error location={masked} payload={summary}"
  | opening mode => s!"event=db_open module=db status=start mode={mode.name}"
  | opened mode => s!"event=db_open module=db status=ok mode={mode.name} duration_ms={masked}"
  | openFailed mode cause =>
      s!"event=db_open module=db status=error mode={mode.name} duration_ms={masked} " ++
        s!"error={cause.message}"
  | migrated oldVersion newVersion =>
      s!"event=db_migrate module=db status=ok from_version={oldVersion} to_version={newVersion}"
  | storeReady mode => s!"event=store_open module=store status=ok mode={mode.name}"
  | scopeOpened depth => s!"event=tx_begin module=store status=ok depth={depth}"
  | scopeCommitted depth => s!"event=tx_commit module=store status=ok depth={depth}"
  | scopeRolledBack depth => s!"event=tx_rollback module=store status=ok depth={depth}"
  | scopeRollbackFailed depth cause =>
      s!"event=tx_rollback module=store status=error depth={depth} error={cause.message}"
  | changeStack height => s!"event=update_stack_dump module=store depth={height}"
  | changeFrame place addresses =>
      s!"event=update_stack_frame module=store index={place} " ++
        "keys=[" ++ String.intercalate " " addresses ++ "]"
  | inserted kind => s!"event=db_insert module=store status=ok otype={kind.tag} version=1"
  | updated kind version =>
      s!"event=db_update module=store status=ok otype={kind.tag} version={version}"
  | deleted kind => s!"event=db_delete module=store status=ok otype={kind.tag}"
  | committed tracked changes =>
      s!"event=tx_outer_commit module=store status=ok tracked={tracked} updates={changes}"
  | rolledBack tracked => s!"event=tx_outer_rollback module=store status=ok tracked={tracked}"
  | published changes sinks =>
      s!"event=updates_published module=store status=ok updates={changes} sinks={sinks}"
  | undelivered =>
      "event=updates_publish module=store status=dropped reason=receiver_closed"
  | seeded clientId => s!"event=initial_data module=service status=seeded client_id={clientId}"
  | seedingSkipped => "event=initial_data module=service status=skipped"

/-- An event as a line of the log. -/
def line (event : Event) : String := event.level.label ++ " " ++ event.message

end Event

end ScopedStore
