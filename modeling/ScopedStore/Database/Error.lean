/-!
# Failures of the database and of the file system
-/

set_option autoImplicit false

namespace ScopedStore

/-- Failures of the file system. Where a directory is needed something else may stand, and where one
is to be made something may stand already (`occupied`). -/
inductive FileError
  | notDirectory
  | occupied
  | missing
  | isDirectory
  | nameTooLong
  | nulByte
  deriving DecidableEq, Repr

/-- The message of a failure of the file system. -/
def FileError.message : FileError → String
  | notDirectory => "Not a directory (os error 20)"
  | occupied => "File exists (os error 17)"
  | missing => "No such file or directory (os error 2)"
  | isDirectory => "Is a directory (os error 21)"
  | nameTooLong => "File name too long (os error 36)"
  | nulByte => "file name contained an unexpected NUL byte"

/-- Failures of the database engine. A change is protected by a file beside that of the database,
which may not come to be (`cannotProtect`). The name of a database may hold the character NUL,
behind so many bytes, and may ask for more access than it has allowed itself before
(`forbiddenAccess`). -/
inductive EngineError
  | locked
  | notDatabase
  | cannotOpen (name : String)
  | cannotProtect
  | unreadable
  | readOnly
  | nulInName (position : Nat)
  | unknownAuthority (authority : String)
  | unknownAccess (mode : String)
  | forbiddenAccess (mode : String)
  | unknownCache (mode : String)
  | unknownSystem (system : String)
  | versionOutOfRange (version : Int)
  | noSuchTable (name : String)
  | noSuchSavepoint (name : String)
  deriving DecidableEq, Repr

/-- The message of a failure of the engine. -/
def EngineError.message : EngineError → String
  | locked => "database is locked"
  | notDatabase => "file is not a database"
  | cannotOpen name => s!"unable to open database file: {name}"
  | cannotProtect => "unable to open database file"
  | unreadable => "disk I/O error"
  | readOnly => "attempt to write a readonly database"
  | nulInName position => s!"nul byte found in provided data at position: {position}"
  | unknownAuthority authority => s!"invalid uri authority: {authority}"
  | unknownAccess mode => s!"no such access mode: {mode}"
  | forbiddenAccess mode => s!"access mode not allowed: {mode}"
  | unknownCache mode => s!"no such cache mode: {mode}"
  | unknownSystem system => s!"no such vfs: {system}"
  | versionOutOfRange version => s!"Integer {version} out of range at index 0"
  | noSuchTable name => s!"no such table: {name}"
  | noSuchSavepoint name => s!"no such savepoint: {name}"

/-- Failures to open a database or to bring its schema up to date. The schema may be newer than the
newest one that is known. -/
inductive DatabaseError
  | engine (cause : EngineError)
  | file (cause : FileError)
  | unsupportedVersion (version latest : Nat)
  deriving DecidableEq, Repr

/-- The message of a failure to open a database. -/
def DatabaseError.message : DatabaseError → String
  | engine cause => s!"sqlite: {cause.message}"
  | file cause => s!"io: {cause.message}"
  | unsupportedVersion version latest =>
      s!"database schema version {version} is newer than supported {latest}"

end ScopedStore
