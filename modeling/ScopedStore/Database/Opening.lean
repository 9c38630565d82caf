import ScopedStore.Database.Migration
import ScopedStore.Logging.Event

/-!
# Opening a database

Whatever was found when a database is opened, in a file or in memory, its schema is brought up to
date before anything else happens, and the beginning and the end of the opening are logged. A
database that cannot be written can be opened only if its schema is up to date already.
-/

set_option autoImplicit false

namespace ScopedStore

namespace Found

/-- Brings the schema up to date, and gives what is logged when it was not. -/
def migrate (found : Found) : Except DatabaseError (Database × List Event) :=
  match found.content.migrate with
  | .error cause => .error cause
  | .ok ⟨database, none⟩ => .ok (database, [])
  | .ok ⟨database, some (start, goal)⟩ =>
      match found.changed database with
      | .error cause => .error (.engine cause)
      | .ok database => .ok (database, [.migrated start goal])

end Found

namespace Database

/-- Opens a database that was found, or reports that none could be found; in both cases with what
is logged meanwhile. -/
def bootstrap (mode : StorageMode) (found : Except DatabaseError Found) :
    Except DatabaseError Database × List Event :=
  match found.bind Found.migrate with
  | .ok (database, log) => (.ok database, .opening mode :: (log ++ [.opened mode]))
  | .error cause => (.error cause, [.opening mode, .openFailed mode cause])

end Database

end ScopedStore
