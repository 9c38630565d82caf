import ScopedStore.Files.Path
import ScopedStore.Json.Access
import ScopedStore.Store.Error

/-!
# Settings of a store

A store lives in a file or in memory alone, and waits a limited time for a file that another
connection has locked. Timeouts are given in nanoseconds. The engine keeps whole milliseconds
only, and has no room for more than 31 bits of them, so a timeout that is accepted here may be
cut to nothing there, or be too long for it (`Timeout.forEngine?`).
-/

set_option autoImplicit false

namespace ScopedStore

/-- A duration in nanoseconds. -/
structure Timeout where
  nanoseconds : Nat
  deriving DecidableEq, Repr

namespace Timeout

/-- A duration of whole milliseconds. -/
def ofMilliseconds (milliseconds : Nat) : Timeout := ⟨milliseconds * 1000000⟩

/-- A duration of whole microseconds. -/
def ofMicroseconds (microseconds : Nat) : Timeout := ⟨microseconds * 1000⟩

/-- The whole milliseconds of a duration. -/
def milliseconds (timeout : Timeout) : Nat := timeout.nanoseconds / 1000000

/-- The whole microseconds of a duration. -/
def microseconds (timeout : Timeout) : Nat := timeout.nanoseconds / 1000

/-- The milliseconds that the engine keeps of a duration, if it has room for them. -/
def forEngine? (timeout : Timeout) : Option Nat :=
  if timeout.milliseconds < Bounds.signed32 then some timeout.milliseconds else none

end Timeout

/-- The settings of a store: the file of the database, without which it lives in memory, and how
long a transaction, and the setting up of the first data, wait for a locked file. -/
structure Config where
  path : Option String
  busyTimeout : Timeout
  initialTimeout : Timeout
  deriving DecidableEq, Repr

namespace Config

/-- How long a transaction waits unless the settings say otherwise. -/
def defaultBusyTimeout : Timeout := .ofMilliseconds 5000

/-- How long the setting up of the first data waits unless the settings say otherwise. -/
def defaultInitialTimeout : Timeout := .ofMilliseconds 2000

/-- A store in memory, with the usual timeouts. -/
def inMemory : Config := ⟨none, defaultBusyTimeout, defaultInitialTimeout⟩

/-- A store in a file, with the usual timeouts. -/
def inFile (path : String) : Config := { inMemory with path := some path }

/-- Are the settings acceptable? The first setting that is not is reported. -/
def validate (config : Config) : Except ConfigError Unit :=
  if config.busyTimeout.nanoseconds = 0 then .error (.zeroTimeout .busy)
  else if config.initialTimeout.nanoseconds = 0 then .error (.zeroTimeout .initial)
  else
    match config.path with
    | some path => if Path.isAbsolute path then .ok () else .error (.relativePath path)
    | none => .ok ()

/-! ## As JSON -/

/-- Reads settings, with timeouts in whole microseconds; what is not given, or makes no sense, is
as usual. -/
def read (value : Json) : Config :=
  let timeout (name : String) (usual : Timeout) : Timeout :=
    match value.field name with
    | .integer (.ofNat microseconds) => .ofMicroseconds microseconds
    | _ => usual
  { path := (value.field "db_path").text?
    busyTimeout := timeout "busy_timeout_us" defaultBusyTimeout
    initialTimeout := timeout "init_timeout_us" defaultInitialTimeout }

/-- Settings as JSON, with timeouts in whole microseconds. -/
def write (config : Config) : Json :=
  .ofMembers [("db_path", (config.path.map .text).getD .null),
    ("busy_timeout_us", .integer config.busyTimeout.microseconds),
    ("init_timeout_us", .integer config.initialTimeout.microseconds)]

end Config

end ScopedStore
