import ScopedStore.Store

/-!
# What a store holds

A census reads the whole store, one transaction for each kind of object and one for the
tombstones. A kind with a row that cannot be read is counted, but its objects are not given.
-/

set_option autoImplicit false

namespace ScopedStore

/-- The objects of one kind: their number, and the objects themselves. -/
structure KindCensus where
  kind : Kind
  found : Except StoreError (Nat × Except StoreError (List kind.Body))

/-- Was nothing found, and no failure either? -/
def KindCensus.isEmpty (census : KindCensus) : Bool :=
  match census.found with
  | .ok (0, _) => true
  | _ => false

/-- Everything that a store holds: the kinds of which there is anything, in order, and the objects
that were deleted. -/
structure Census where
  kinds : List KindCensus
  tombstones : Except StoreError (List Ref)

namespace Store

/-- Reads the objects of one kind. -/
def censusOfKind (store : Store) (kind : Kind) : KindCensus × Store :=
  let (found, store) := store.transactValue do
    let count ← Transaction.ask (.count kind)
    return (count, ← Transaction.askPlain (.list kind))
  (⟨kind, found⟩, store)

/-- Reads the objects of some kinds. -/
def censusOfKinds (store : Store) : List Kind → List KindCensus × Store
  | [] => ([], store)
  | kind :: rest =>
      let (first, store) := store.censusOfKind kind
      let (later, store) := store.censusOfKinds rest
      (first :: later, store)

/-- Reads everything. -/
def census (store : Store) : Census × Store :=
  let (kinds, store) := store.censusOfKinds Kind.all
  let (tombstones, store) := store.transactValue (Transaction.ask .tombstones)
  (⟨kinds.filter fun census => !census.isEmpty, tombstones⟩, store)

end Store

end ScopedStore
