/-!
# Locks

Other connections may hold two locks on the files of databases: one holds the right to write, and
one reads. Each of the locks is on one file, and they do not disturb each other. A file on which
somebody holds the right to write cannot be written from the start; one that somebody reads can
be written, but what was written cannot be committed.
-/

set_option autoImplicit false

namespace ScopedStore

/-- What another connection does with the file of a database: nothing, or it holds the right to
write, or it reads, so that nobody can commit. -/
inductive Contention
  | free
  | writing
  | reading
  deriving DecidableEq, Repr, Inhabited

/-- The locks that other connections hold: the file on which there is the right to write, and the
file that is read, each at the place of some names. -/
structure Locks where
  writer : Option (List String)
  reader : Option (List String)

namespace Locks

/-- No locks. -/
def none : Locks := ⟨.none, .none⟩

/-- What others do with the file at a place; nobody else knows a database without one. -/
def on (locks : Locks) : Option (List String) → Contention
  | .none => .free
  | some names =>
      if locks.writer = some names then .writing
      else if locks.reader = some names then .reading
      else .free

end Locks

end ScopedStore
