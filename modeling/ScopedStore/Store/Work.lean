import ScopedStore.Store.Access

/-!
# Work inside a transaction

What a caller does inside a transaction is a tree: an operation on the handle and what is done
with its answer, or a scope with work of its own and what is done with its outcome. Statements
about everything that a caller can do are statements about all such trees, and are proved by
induction on them.

How a scope ends is decided by the value of its work: the scope is kept, or it is discarded
because the work gives an error, or it is discarded because the work gave up altogether. The
difference between the last two is what happens outside: an error is an answer, and giving up
goes on through every scope around it, until somebody stops it.
-/

set_option autoImplicit false

namespace ScopedStore

/-- The operations on a handle, by the type of their answer. An object is read by its kind and id,
or by its address (`getRef`); it is stored anew, replaced, or deleted if it exists. A change can be
recorded that no write has made (`record`). -/
inductive Operation : Type → Type
  | get (kind : Kind) (id : String) : Operation (Except StoreError (Option kind.Body))
  | getRef (ref : Ref) : Operation (Except StoreError (Option Record))
  | list (kind : Kind) : Operation (Except StoreError (List kind.Body))
  | count (kind : Kind) : Operation (Except StoreError Nat)
  | tombstones : Operation (Except StoreError (List Ref))
  | insert (kind : Kind) (body : kind.Body) : Operation (Except StoreError kind.Body)
  | update (kind : Kind) (body : kind.Body) : Operation (Except StoreError kind.Body)
  | delete (kind : Kind) (id : String) : Operation (Except StoreError Bool)
  | draw : Operation String
  | depth : Operation Nat
  | tracked : Operation Bool
  | pending (ref : Ref) : Operation (Option Change)
  | allPending : Operation Frame
  | record (change : Change) : Operation Unit

namespace Handle

/-- The answer of a write and the handle after it; after a failed one it is the handle before. -/
def settle {α : Type} (handle : Handle) :
    Except StoreError (α × Handle) → Except StoreError α × Handle
  | .ok (answer, after) => (.ok answer, after)
  | .error cause => (.error cause, handle)

/-- Performs an operation. -/
def perform {α : Type} (handle : Handle) : Operation α → α × Handle
  | .get kind id => (handle.get kind id, handle)
  | .getRef ref => (handle.getRef ref, handle)
  | .list kind => (handle.list kind, handle)
  | .count kind => (handle.count kind, handle)
  | .tombstones => (handle.tombstones, handle)
  | .insert kind body => handle.settle (handle.insert kind body)
  | .update kind body => handle.settle (handle.update kind body)
  | .delete kind id => handle.settle (handle.delete kind id)
  | .draw =>
      let (id, ids) := handle.ids.draw
      (id, { handle with ids })
  | .depth => (handle.depth, handle)
  | .tracked => (handle.tracked, handle)
  | .pending ref => (handle.pending ref, handle)
  | .allPending => (handle.allPending, handle)
  | .record change => ((), handle.record change)

end Handle

/-- How a scope ends: what was done in it stays, or it is undone and its value is an answer, or it
is undone and the work around it is given up as well. -/
inductive Ending
  | keep
  | discard
  | unwind
  deriving DecidableEq, Repr

/-- Work inside a transaction that gives a value of type `α`. Nothing more is done, or there is an
operation and what follows its answer, or a scope and what follows its value; a scope that was to be
kept may fail to close. -/
inductive Work : Type → Type 1
  | done {α : Type} (value : α) : Work α
  | call {α β : Type} (operation : Operation β) (next : β → Work α) : Work α
  | scope {α β : Type} (body : Work β) (ending : β → Ending)
      (next : β → Except StoreError Unit → Work α) : Work α

namespace Work

/-- Goes on with the value of some work. -/
def bind {α β : Type} : Work α → (α → Work β) → Work β
  | done value, next => next value
  | call operation rest, next => call operation fun answer => (rest answer).bind next
  | scope body ending rest, next =>
      scope body ending fun value closing => (rest value closing).bind next

instance {α : Type} [Inhabited α] : Inhabited (Work α) := ⟨done default⟩

instance : Monad Work where
  pure := done
  bind := bind

/-- The answer of one operation. -/
def ask {α : Type} (operation : Operation α) : Work α := call operation done

/-- Does the work, and gives its value and the handle after it. -/
def run {α : Type} : Work α → Handle → α × Handle
  | done value, handle => (value, handle)
  | call operation next, handle =>
      let (answer, after) := handle.perform operation
      (next answer).run after
  | scope body ending next, handle =>
      let (value, inside) := body.run handle.openScope
      match ending value with
      | .keep =>
          let (closing, after) := inside.commitScope
          (next value closing).run after
      | .discard | .unwind => (next value (.ok ())).run inside.abandonScope

end Work

/-! ## Work that may fail -/

/-- Work that gives a value or a failure of the store. -/
abbrev Transaction (α : Type) : Type 1 := ExceptT StoreError Work α

namespace Transaction

/-- The value of an operation that may fail, or its failure. -/
def ask {α : Type} (operation : Operation (Except StoreError α)) : Transaction α :=
  ExceptT.mk (Work.ask operation)

/-- The value of an operation that cannot fail. -/
def askPlain {α : Type} (operation : Operation α) : Transaction α :=
  ExceptT.lift (Work.ask operation)

/-- How a scope of such work ends. -/
def ending {α : Type} : Except StoreError α → Ending
  | .ok _ => .keep
  | .error _ => .discard

/-- The answer of such work in a scope that may fail to close. -/
def outcome {α : Type} (answer : Except StoreError α) (closing : Except StoreError Unit) :
    Except StoreError α :=
  match answer, closing with
  | .ok value, .ok () => .ok value
  | .ok _, .error cause => .error cause
  | .error cause, _ => .error cause

/-- Does the work in a scope of its own, which is kept exactly when the work succeeds. -/
def nested {α : Type} (work : Transaction α) : Transaction α :=
  ExceptT.mk (.scope work.run ending fun answer closing => .done (outcome answer closing))

end Transaction

end ScopedStore
