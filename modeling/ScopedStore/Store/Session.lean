import ScopedStore.Database.Direct
import ScopedStore.Store

/-!
# Sessions

A session is a store with the files around it. The store is opened and closed in it, the file of
its database may be changed behind its back, and other connections may lock that file; what
happens in the store reaches the file, and the other way round.

Those who go past the store take the path that was last asked for, whether the store could be
opened or not, and open the database there as it is. So they make the file if it is not there.
-/

set_option autoImplicit false

namespace ScopedStore

/-- A store, if one is open, and the files around it, with the path of the file that was last asked
for, and with what other connections do with files. -/
structure Session where
  files : FileTree
  store : Option Store
  path : Option String
  locks : Locks
  ids : IdSource
  now : Int

namespace Session

/-- A session without a store. -/
def start (files : FileTree) (ids : IdSource) (now : Int) : Session :=
  ⟨files, none, none, .none, ids, now⟩

/-! ## The store -/

/-- Opens a store in the place of the one that is open. -/
def openStore (session : Session) (config : Config) :
    Except Refusal Unit × List Event × Session :=
  let opening := Store.openIn session.files session.locks config session.ids session.now
  let session := { session with files := opening.files, path := config.path }
  match opening.result with
  | .ok store => (.ok (), opening.log, { session with store := some store })
  | .error refusal => (.error refusal, opening.log, { session with store := none })

/-- Opens a store in memory if none is open; this leaves the path that was asked for. -/
def ensureStore (session : Session) : List Event × Session :=
  match session.store with
  | some _ => ([], session)
  | none =>
      let (_, log, opened) := session.openStore .inMemory
      (log, { opened with path := session.path })

/-- The store as it is now: with what its file holds, and with the locks on it. -/
def current (session : Session) : Option Store :=
  session.store.map fun store =>
    { store.refresh session.files with
      contention := session.locks.on store.place, ids := session.ids, log := [] }

/-- Does something with the store, if one is open; gives what was logged as well. -/
def use {α : Type} (session : Session) (action : Store → α × Store) :
    Option (α × List Event) × Session :=
  match session.current with
  | none => (none, session)
  | some store =>
      let (answer, after) := action store
      (some (answer, after.log),
        { session with store := some after, files := after.saveTo session.files, ids := after.ids })

/-! ## Past the store -/

/-- Opens the database at the path that was last asked for, as it is. -/
def openDirectly (session : Session) : Except EngineError Link × Session :=
  match session.files.link none (session.path.getD "") with
  | .error cause => (.error cause, session)
  | .ok (link, files) => (.ok link, { session with files })

/-- Does something directly to the database at the path that was last asked for. -/
def act (session : Session) (action : DirectAction) :
    Except EngineError DirectAnswer × Session :=
  match session.openDirectly with
  | (.error cause, session) => (.error cause, session)
  | (.ok link, session) =>
      let (found, files) := link.findUnder session.locks session.files
      match found.bind action.run with
      | .error cause => (.error cause, { session with files })
      | .ok (answer, none) => (.ok answer, { session with files })
      | .ok (answer, some content) =>
          (.ok answer, { session with files := (link.save files content).2 })

/-- Another connection takes the right to write to the file that was last asked for. Only one can
have it. -/
def lockWriting (session : Session) : Except EngineError Unit × Session :=
  match session.openDirectly with
  | (.error cause, session) => (.error cause, session)
  | (.ok link, session) =>
      let (found, files) := link.find session.files
      let session := { session with files }
      match found, session.locks.on link.place? with
      | .error cause, _ | .ok ⟨_, some cause⟩, _ => (.error cause, session)
      | .ok _, .writing => (.error .locked, session)
      | .ok _, _ => (.ok (), { session with locks.writer := link.place? })

/-- Another connection begins to read the file that was last asked for. -/
def lockReading (session : Session) : Except EngineError Unit × Session :=
  match session.openDirectly with
  | (.error cause, session) => (.error cause, session)
  | (.ok link, session) =>
      match link.find session.files with
      | (.error cause, files) => (.error cause, { session with files })
      | (.ok _, files) => (.ok (), { session with files, locks.reader := link.place? })

/-- The right to write is given back. -/
def unlockWriting (session : Session) : Session := { session with locks.writer := none }

/-- Nobody reads any longer. -/
def unlockReading (session : Session) : Session := { session with locks.reader := none }

end Session

end ScopedStore
