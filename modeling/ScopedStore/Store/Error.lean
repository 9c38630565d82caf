import ScopedStore.Database.Repository

/-!
# Failures of the store

What a caller of the store is told when an operation fails. Failures that mean something to the
caller (there is no such object, there is one already, the object has changed) are failures of
the store itself, whatever part of the program found them; all others keep what lies behind them,
and `StoreError.causes` lists it.
-/

set_option autoImplicit false

namespace ScopedStore

/-- Scopes that are closed more often than they were opened. -/
inductive ScopeError
  | nothingToCommit
  | nothingToRollBack
  deriving DecidableEq, Repr

/-- The message of scopes that are closed more often than they were opened. -/
def ScopeError.message : ScopeError → String
  | nothingToCommit => "no updates transaction to commit"
  | nothingToRollBack => "no updates transaction to rollback"

/-- A setting that has to be more than nothing. -/
inductive TimeoutSetting
  | busy
  | initial
  deriving DecidableEq, Repr

/-- The name of a setting. -/
def TimeoutSetting.name : TimeoutSetting → String
  | busy => "busy_timeout"
  | initial => "init_timeout"

/-- Settings that are refused. -/
inductive ConfigError
  | zeroTimeout (setting : TimeoutSetting)
  | relativePath (path : String)
  deriving DecidableEq, Repr

/-- The message of settings that are refused. -/
def ConfigError.message : ConfigError → String
  | zeroTimeout setting => s!"{setting.name} must be greater than zero"
  | relativePath path => s!"db_path must be absolute, got `{path}`"

/-- Failures of operations of the store. Scopes may be closed more often than they were opened
(`scope`), the repository may fail for a reason of its own, and a body may not have the form of its
kind (`malformed`). -/
inductive StoreError
  | notFound (ref : Ref)
  | duplicateKey (ref : Ref)
  | versionConflict (ref : Ref) (expected actual : Int)
  | unknownKind (unknown : UnknownKind)
  | scope (misuse : ScopeError)
  | repository (cause : RepositoryError)
  | malformed (fault : Json.Fault)
  | config (cause : ConfigError)
  deriving DecidableEq, Repr

namespace StoreError

/-- Is the failure that there is no such object? -/
def isNotFound : StoreError → Bool
  | notFound _ => true
  | _ => false

/-- The message of a failure. -/
def message : StoreError → String
  | notFound ref => s!"{ref.kind.tag} not found: {Text.quoted ref.id}"
  | duplicateKey ref => s!"object already exists: {ref.display}"
  | versionConflict ref expected actual =>
      s!"version conflict for {ref.display}: expected {expected}, stored {actual}"
  | unknownKind unknown => unknown.message
  | scope misuse => misuse.message
  | repository cause => cause.message
  | malformed fault => s!"object serialization failed: {fault.message}"
  | config cause => s!"invalid store config: {cause.message}"

/-- The messages of what lies behind a failure, the nearest first. -/
def causes : StoreError → List String
  | unknownKind unknown => [unknown.message]
  | scope misuse => [misuse.message]
  | repository cause => cause.message :: cause.causes
  | config cause => [cause.message]
  | _ => []

/-- A failure of the repository as a failure of the store. -/
def ofRepository : RepositoryError → StoreError
  | .notFound ref => notFound ref
  | .duplicateKey ref => duplicateKey ref
  | .versionConflict ref expected actual => versionConflict ref expected actual
  | other => repository other

/-- A failure to open a database as a failure of the store. -/
def ofDatabase (cause : DatabaseError) : StoreError := repository (.database cause)

/-- A failure of the engine as a failure of the store. -/
def ofEngine (cause : EngineError) : StoreError := ofDatabase (.engine cause)

end StoreError

end ScopedStore
