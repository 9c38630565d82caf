import ScopedStore.Files.Tree
import ScopedStore.Logging.Event
import ScopedStore.Text.Pieces

/-!
# Setting up the log

Logging is off at first, and the first successful set-up turns it on for good: one level and one
directory for the life of the program. Setting it up again with the same level and directory
changes nothing and is fine, and with another one it is refused.

Levels are names without regard to blanks around them and to the case of ASCII letters;
directories are absolute paths without regard to blanks around them, compared piece by piece.
What is wrong with a request is looked for in this order: the level, the directory, a directory
that is not the active one, a level that is not the active one.

The file of the log is made when the first line is logged. If that cannot be, the line is lost.
Lines wait until they are asked for, or for good if the program ends before; only then are they
written behind whatever the file holds.

Whoever reads the logs in a directory reads the texts of all its files, line by line, and takes
from each line its entry: the level and the message, which starts with the name of an event. A
line that continues an entry, or belongs to no log, has an entry with an empty message.
-/

set_option autoImplicit false

namespace ScopedStore

/-- Why the log cannot be set up. A name that is no level is given without blanks and in small
letters. A log that is there already may have another level, or be in another directory. -/
inductive LoggingError
  | unsupportedLevel (name : String)
  | emptyDirectory
  | relativeDirectory (path : String)
  | uncreatableDirectory (path : String) (cause : FileError)
  | levelConflict (active requested : LogLevel)
  | directoryConflict (active requested : String)
  deriving DecidableEq, Repr

/-- The message of a log that cannot be set up. -/
def LoggingError.message : LoggingError → String
  | unsupportedLevel name =>
      s!"unsupported log level `{name}`; expected trace|debug|info|warn|error"
  | emptyDirectory => "log_dir cannot be empty"
  | relativeDirectory path => s!"log_dir must be an absolute path, got `{path}`"
  | uncreatableDirectory path cause =>
      s!"failed to create log directory `{path}`: {cause.message}"
  | levelConflict active requested =>
      s!"logging already initialized with level `{active.name}`; refusing to switch to " ++
        s!"`{requested.name}`"
  | directoryConflict active requested =>
      s!"logging already initialized at `{active}`; refusing to switch to `{requested}`"

/-- The log of a program: its level, and its directory as it was first spelled. -/
structure ActiveLog where
  level : LogLevel
  directory : String
  deriving DecidableEq, Repr

namespace ActiveLog

/-! ## Requests -/

/-- The text with its ASCII letters in lower case. -/
def lowerCase (text : String) : String := String.ofList (text.toList.map Char.toLower)

/-- The level that a name means. -/
def readLevel (name : String) : Except LoggingError LogLevel :=
  match lowerCase (Text.trim name) with
  | "trace" => .ok .trace
  | "debug" => .ok .debug
  | "info" => .ok .info
  | "warn" | "warning" => .ok .warn
  | "error" => .ok .error
  | other => .error (.unsupportedLevel other)

/-- The directory that a text means. -/
def readDirectory (text : String) : Except LoggingError String :=
  let path := Text.trim text
  if path.isEmpty then .error .emptyDirectory
  else if Path.isAbsolute path then .ok path
  else .error (.relativeDirectory path)

/-- What is asked of the log. -/
def request (level directory : String) : Except LoggingError ActiveLog := do
  let level ← readLevel level
  return ⟨level, ← readDirectory directory⟩

/-- Is a request what the log is already? -/
def check (active requested : ActiveLog) : Except LoggingError Unit :=
  if !Path.same active.directory requested.directory then
    .error (.directoryConflict active.directory requested.directory)
  else if active.level ≠ requested.level then
    .error (.levelConflict active.level requested.level)
  else .ok ()

/-! ## Files -/

/-- The name of the file that holds the log. -/
def fileName : String := "wavestore_rCURRENT.log"

/-- The path of the file that holds the log. -/
def path (log : ActiveLog) : String := log.directory ++ "/" ++ fileName

/-- The lines of those events that matter enough for the level of the log. -/
def choose (log : ActiveLog) (events : List Event) : List String :=
  (events.filter fun event => log.level.rank ≤ event.level.rank).map Event.line

end ActiveLog

/-- The log of a program, once it is set up, the lines that were logged but are not in the file yet,
and the files. -/
structure Logging where
  active : Option ActiveLog
  waiting : List String
  files : FileTree

namespace Logging

/-- Logging is off. -/
def off (files : FileTree) : Logging := ⟨none, [], files⟩

/-- Logs events, if logging is on and they can be logged. -/
def write (logging : Logging) (events : List Event) : Logging :=
  match logging.active with
  | none => logging
  | some log =>
      match log.choose events, logging.files.openFile log.path with
      | [], _ | _, .error _ => logging
      | lines, .ok (_, files) => { logging with waiting := logging.waiting ++ lines, files }

/-- Writes the lines that wait to the file. -/
def flush (logging : Logging) : Logging :=
  match logging.active with
  | none => logging
  | some log =>
      match logging.waiting, logging.files.openFile log.path with
      | [], _ | _, .error _ => logging
      | lines, .ok (names, files) =>
          let text := String.join (lines.map fun line => line ++ "\n")
          { logging with waiting := [], files := files.appendText names text }

/-- Turns logging on, if the directory of the log can be made, and gives the log. -/
def start (logging : Logging) (log : ActiveLog) : Except LoggingError ActiveLog × Logging :=
  match logging.files.makeDirectories log.directory with
  | (.error cause, files) =>
      (.error (.uncreatableDirectory log.directory cause), { logging with files })
  | (.ok (), files) =>
      let logging : Logging := { logging with active := some log, files }
      (.ok log, logging.write [.started, .loggingActive log.level log.directory])

/-- Sets the log up. Whether the log was there already or has just been started, it is compared with
the request in the end. -/
def setUp (logging : Logging) (level directory : String) : Except LoggingError Unit × Logging :=
  match ActiveLog.request level directory with
  | .error cause => (.error cause, logging)
  | .ok requested =>
      match logging.active with
      | some active => (active.check requested, logging)
      | none =>
          match logging.start requested with
          | (.error cause, logging) => (.error cause, logging)
          | (.ok active, logging) => (active.check requested, logging)

/-! ## Giving up -/

/-- The number of characters of a reason that are logged. -/
def summaryLength : Nat := 160

/-- A reason on one line and cut to its first characters. -/
def summarize (reason : String) : String :=
  let flat := reason.toList.map fun character =>
    if character = '\n' ∨ character = '\r' then ' ' else character
  String.ofList (flat.take summaryLength) ++ if flat.length > summaryLength then "..." else ""

/-- The event of a program that gives up; not every reason is a text. -/
def panicEvent (reason : Option String) : Event :=
  .panicCaptured (summarize (reason.getD "non-string panic payload"))

end Logging

/-! ## Reading -/

/-- How the message of an entry starts. -/
def Event.opener : String := "event="

/-- The entry in a line. -/
def Event.entryIn (line : String) : String :=
  let (front, message) := Text.cutBefore opener.toList line.toList
  let level := LogLevel.all.find? fun level => (level.label ++ " ").toList.isSuffixOf front
  (level.map LogLevel.label).getD "" ++ " " ++ String.ofList message

/-- The entries in the files of a directory, once the lines that waited are in their file. -/
def Logging.entriesIn (logging : Logging) (directory : String) : List String × Logging :=
  let logging := logging.flush
  (((logging.files.textsIn directory).flatMap Text.lines).map Event.entryIn, logging)

end ScopedStore
