import ScopedStore.Domain.Service
import ScopedStore.Logging.Setup

/-!
# The command line

One run of the program opens a store, sets up the first data if there is none, and prints the
client and what its window shows. The store lives in the file that the first argument names, or
in memory when there is no argument; further arguments are passed over. Logging is on when a
directory is named for it; a run is over before its lines are written to the file of the log.

A run reads and changes nothing but the files, which it gets and gives as a value.
-/

set_option autoImplicit false

namespace ScopedStore

namespace CommandLine

/-- What a run starts from. The log is kept in a directory, if one is named. -/
structure Invocation where
  arguments : List String
  logDirectory : Option String
  files : FileTree
  ids : IdSource

/-- How a run ends: with a code, with what it has printed, and with what it has printed about a
failure. -/
structure Result where
  exitCode : Nat
  output : String
  errors : String
  files : FileTree

/-- Why a run fails: a path is empty that has to name something, the log cannot be set up, or the
store gives no result. -/
inductive Failure
  | emptyPath
  | logging (cause : LoggingError)
  | refusal (cause : Refusal)
  deriving DecidableEq, Repr

/-- The message of a run that fails. -/
def Failure.message : Failure → String
  | emptyPath => "cannot make an empty path absolute"
  | logging cause => cause.message
  | refusal (.failure cause) => cause.message
  | refusal (.panic reason) => reason

/-- A path from the working directory on. -/
def Invocation.fromHere (invocation : Invocation) (path : String) : String :=
  Path.absolute (FileTree.place invocation.files.workingDirectory) path

/-- A path as an absolute one. -/
def absolute (invocation : Invocation) (path : String) : Except Failure String :=
  if path.isEmpty then .error .emptyPath else .ok (invocation.fromHere path)

/-- Sets up the log if a directory is named for it. -/
def setUpLog (invocation : Invocation) : Except Failure Unit × Logging :=
  let logging := Logging.off invocation.files
  match invocation.logDirectory with
  | none | some "" => (.ok (), logging)
  | some directory =>
      match logging.setUp LogLevel.info.name (invocation.fromHere directory) with
      | (.ok (), logging) => (.ok (), logging)
      | (.error cause, logging) => (.error (.logging cause), logging)

/-- The settings of the store. -/
def config (invocation : Invocation) : Except Failure Config :=
  match invocation.arguments with
  | [] => .ok .inMemory
  | path :: _ => (absolute invocation path).map .inFile

/-- What is printed about a store: whether the first data was set up now, the client, and what
its window shows. -/
def report (seeded : Bool) (client : Client) (view : WindowView) : String :=
  s!"wavestore_core version={Event.programVersion}\n" ++ s!"seeded={seeded}\n" ++
    s!"client={client.id}\n" ++ s!"window={view.windowId}\n" ++
    s!"active_tab={view.activeTabId}\n"

/-- Sets up the first data in a store, and gives what is printed. -/
def use (store : Store) : Except Failure String × Store :=
  match Service.ensureInitialData store with
  | (.error refusal, store) => (.error (.refusal refusal), store)
  | (.ok seeded, store) =>
      match store.transactValue Graph.getClient with
      | (.error cause, store) => (.error (.refusal (.failure cause)), store)
      | (.ok client, store) =>
          match store.transactValue Graph.getMainView with
          | (.error cause, store) => (.error (.refusal (.failure cause)), store)
          | (.ok view, store) => (.ok (report seeded client view), store)

/-- The time that a run takes for the present. It deletes nothing, so no time is ever stored. -/
def epoch : Int := 0

/-- How a run ends that fails. -/
def failed (failure : Failure) (files : FileTree) : Result :=
  ⟨1, "", s!"wavestore error: {failure.message}\n", files⟩

/-- Runs the program. -/
def run (invocation : Invocation) : Result :=
  match setUpLog invocation with
  | (.error failure, logging) => failed failure logging.files
  | (.ok (), logging) =>
      match config invocation with
      | .error failure => failed failure logging.files
      | .ok config =>
          let opening := Store.openIn logging.files .none config invocation.ids epoch
          let logging := { logging with files := opening.files }.write opening.log
          match opening.result with
          | .error refusal => failed (.refusal refusal) logging.files
          | .ok store =>
              let (answer, store) := use { store with log := [] }
              let logging := { logging with files := store.saveTo logging.files }.write store.log
              match answer with
              | .error failure => failed failure logging.files
              | .ok output => ⟨0, output, "", logging.files⟩

end CommandLine

end ScopedStore
