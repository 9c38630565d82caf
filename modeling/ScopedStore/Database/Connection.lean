import ScopedStore.Database.Content
import ScopedStore.Database.Error

/-!
# Savepoints

Inside a transaction a connection has a current content and a stack of named savepoints, each of
which remembers the content at the time it was set. A name may be set again while it is open:
the innermost savepoint of that name is then the one that is meant.

Releasing a savepoint forgets it and those inside it, and keeps the current content. Rolling back
to a savepoint restores its content and forgets the savepoints inside it, but not itself.
-/

set_option autoImplicit false

namespace ScopedStore

/-- A savepoint: its name, and the content when it was set. -/
structure Savepoint where
  name : String
  content : Database

/-- A connection inside a transaction: the content that statements see, and the open savepoints,
innermost first. -/
structure Connection where
  content : Database
  savepoints : List Savepoint

namespace Connection

/-- A connection on a content, without savepoints. -/
def ofContent (content : Database) : Connection := ⟨content, []⟩

/-- Sets a savepoint. -/
def savepoint (connection : Connection) (name : String) : Connection :=
  { connection with savepoints := ⟨name, connection.content⟩ :: connection.savepoints }

/-- The savepoints from the innermost one of a name on. -/
def openFrom (connection : Connection) (name : String) : List Savepoint :=
  connection.savepoints.dropWhile fun savepoint => savepoint.name != name

/-- Forgets the innermost savepoint of a name and those inside it. -/
def release (connection : Connection) (name : String) : Except EngineError Connection :=
  match connection.openFrom name with
  | [] => .error (.noSuchSavepoint name)
  | _ :: outer => .ok { connection with savepoints := outer }

/-- Restores the content of the innermost savepoint of a name and forgets those inside it. -/
def rollbackTo (connection : Connection) (name : String) : Except EngineError Connection :=
  match connection.openFrom name with
  | [] => .error (.noSuchSavepoint name)
  | savepoint :: outer => .ok ⟨savepoint.content, savepoint :: outer⟩

end Connection

end ScopedStore
