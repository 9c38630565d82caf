import ScopedStore.Database.Connection
import ScopedStore.Model.ObjectId
import ScopedStore.Store.ChangeStack

/-!
# Scopes of a transaction

A handle is the state of one running transaction. It keeps two records of what the open scopes
have done, side by side: the savepoints of its connection, which can undo rows, and the stack of
pending changes, which can undo what would be published. A scope opens and closes in both at
once.

Callers keep their own copies of objects, and rolling a scope back does not reach those: a copy
that was written inside the scope still carries a version that no longer exists. The handle
therefore remembers, for every scope, from which version to which one each object moved
(`written`), and for scopes that were rolled back, which version an undone one stands for
(`undone`). A caller's version is led back by that memory before it is compared with the row
(`expectedVersion`).
-/

set_option autoImplicit false

namespace ScopedStore

/-- How a scope moved the version of one object: the version in front of the first write, and the
one behind the last write. -/
structure VersionSpan where
  base : Int
  latest : Int
  deriving DecidableEq, Repr, Inhabited

/-- How a scope moved the versions of the objects that it wrote. -/
abbrev VersionSpans : Type := SortedMap Ref VersionSpan

namespace VersionSpans

/-- Notes that an object moved to a version; the base stays that of the first move. -/
def note (spans : VersionSpans) (ref : Ref) (base latest : Int) : VersionSpans :=
  spans.insert ref ⟨((spans.get? ref).map VersionSpan.base).getD base, latest⟩

/-- The moves of a scope and then those of a scope inside it. -/
def followedBy (spans inner : VersionSpans) : VersionSpans :=
  inner.entries.foldl (fun held (ref, span) => held.note ref span.base span.latest) spans

end VersionSpans

/-- The state of a running transaction: the connection to the database, the number of open scopes,
the versions that each of them has written, innermost first, the versions that were undone and that
callers may still hold, and the pending changes, if changes are recorded. New ids come from a
source, the time is in milliseconds, and the log has what has been logged, in order. -/
structure Handle where
  connection : Connection
  depth : Nat
  written : List VersionSpans
  undone : VersionSpans
  changes : Option ChangeStack
  ids : IdSource
  now : Int
  log : List Event

namespace Handle

/-- The handle of a transaction that has just begun. -/
def start (content : Database) (tracked : Bool) (ids : IdSource) (now : Int) : Handle where
  connection := .ofContent content
  depth := 0
  written := []
  undone := ∅
  changes := if tracked then some .empty else none
  ids
  now
  log := []

/-- The content of the database as the transaction sees it. -/
def content (handle : Handle) : Database := handle.connection.content

/-- The handle with other content. -/
def withContent (handle : Handle) (content : Database) : Handle :=
  { handle with connection := { handle.connection with content } }

/-- The handle after an event. -/
def note (handle : Handle) (event : Event) : Handle :=
  { handle with log := handle.log ++ [event] }

/-! ## Pending changes -/

/-- Are changes recorded? -/
def tracked (handle : Handle) : Bool := handle.changes.isSome

/-- Records a change in the innermost scope, if changes are recorded. -/
def record (handle : Handle) (change : Change) : Handle :=
  { handle with changes := handle.changes.map fun stack => stack.record change }

/-- The innermost pending change of an object. -/
def pending (handle : Handle) (ref : Ref) : Option Change :=
  handle.changes.bind fun stack => stack.lookup ref

/-- The pending changes of all objects. -/
def allPending (handle : Handle) : Frame :=
  match handle.changes with
  | some stack => stack.snapshot
  | none => ∅

/-- What is published when the transaction ends. -/
def finish (handle : Handle) : List Change :=
  match handle.changes with
  | some stack => stack.drain
  | none => []

/-! ## Versions -/

/-- The version that the row of an object should have for a caller that holds a version of it. -/
def expectedVersion (handle : Handle) (ref : Ref) (version : Int) : Int :=
  match handle.undone.get? ref with
  | some span => if span.latest = version then span.base else version
  | none => version

/-- Notes that an object was moved from one version to another in the innermost scope. -/
def noteVersion (handle : Handle) (ref : Ref) (old new : Int) : Handle :=
  { handle with
    undone := handle.undone.erase ref
    written :=
      match handle.written with
      | [] => []
      | top :: below => top.note ref old new :: below }

/-! ## Scopes -/

/-- The name of the savepoint of the scope at a depth. -/
def savepointName (depth : Nat) : String := s!"wavestore_scope_{depth}"

/-- Opens a scope. -/
def openScope (handle : Handle) : Handle :=
  let depth := handle.depth + 1
  let opened : Handle :=
    { handle with
      connection := handle.connection.savepoint (savepointName depth)
      depth
      written := ∅ :: handle.written
      changes := handle.changes.map ChangeStack.openScope }
  opened.note (.scopeOpened depth)

/-- The versions of the open scopes when the innermost one joins the one around it. -/
def joinInnermost : List VersionSpans → List VersionSpans
  | [] => []
  | [_] => []
  | top :: parent :: below => parent.followedBy top :: below

/-- Closes the innermost scope and undoes what was done in it. -/
def rollBackScope (handle : Handle) : Except StoreError Unit × Handle :=
  let name := savepointName handle.depth
  let left : Handle :=
    { handle with
      depth := handle.depth - 1
      written := handle.written.tail
      undone := handle.undone.insertAll (handle.written.head?.getD ∅)
      log := handle.log ++ (handle.changes.map ChangeStack.describe).getD [] }
  match left.changes.mapM ChangeStack.rollBackScope with
  | .error misuse => (.error (.scope misuse), left)
  | .ok changes =>
      let left := { left with changes }
      match left.connection.rollbackTo name with
      | .error cause => (.error (.ofEngine cause), left)
      | .ok restored =>
          match restored.release name with
          | .error cause => (.error (.ofEngine cause), { left with connection := restored })
          | .ok connection =>
              (.ok (), { left with connection }.note (.scopeRolledBack handle.depth))

/-- Closes the innermost scope, so that what was done in it belongs to the scope around it. -/
def commitScope (handle : Handle) : Except StoreError Unit × Handle :=
  match handle.connection.release (savepointName handle.depth) with
  | .error cause =>
      match handle.rollBackScope with
      | (.error failure, left) => (.error failure, left)
      | (.ok (), left) => (.error (.ofEngine cause), left)
  | .ok connection =>
      let left : Handle :=
        { handle with
          connection
          depth := handle.depth - 1
          written := joinInnermost handle.written }
      match left.changes.mapM ChangeStack.commitScope with
      | .error misuse => (.error (.scope misuse), left)
      | .ok changes => (.ok (), { left with changes }.note (.scopeCommitted handle.depth))

/-- Closes the innermost scope and undoes what was done in it; that this failed is logged, and
is nothing that the caller is told. -/
def abandonScope (handle : Handle) : Handle :=
  match handle.rollBackScope with
  | (.ok (), left) => left
  | (.error cause, left) => left.note (.scopeRollbackFailed left.depth cause)

end Handle

end ScopedStore
