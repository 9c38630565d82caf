import ScopedStore.Store.Work
import ScopedStore.Proofs.SortedMap

/-!
# What a program does to its handle

A program is a tree of operations and scopes. Running it goes along one path through the tree,
and what it does to the handle on the way is a list of moves: it performs an operation, opens a
scope, keeps one or discards one. The handle at the end of the run is the handle that playing
those moves gives (`Work.run_eq_play`), and a point between two steps of the run is the handle
that playing some of them gives, from the first one on. A program closes exactly the scopes that
it has opened (`Work.levelAfter_moves`).
-/

set_option autoImplicit false

namespace ScopedStore

/-! ## Moves -/

/-- One thing that a program does to the handle of its transaction. -/
inductive Move : Type 1
  | perform {β : Type} (operation : Operation β)
  | openScope
  | keepScope
  | discardScope

namespace Handle

/-- The handle after a move. -/
def move (handle : Handle) : Move → Handle
  | .perform operation => (handle.perform operation).2
  | .openScope => handle.openScope
  | .keepScope => handle.commitScope.2
  | .discardScope => handle.abandonScope

/-- The handle after some moves. -/
def play (handle : Handle) (moves : List Move) : Handle := moves.foldl move handle

@[simp] theorem play_nil (handle : Handle) : handle.play [] = handle := rfl

@[simp] theorem play_cons (handle : Handle) (first : Move) (rest : List Move) :
    handle.play (first :: rest) = (handle.move first).play rest := rfl

theorem play_append (handle : Handle) (first second : List Move) :
    handle.play (first ++ second) = (handle.play first).play second :=
  List.foldl_append

end Handle

/-- The number of open scopes behind some moves in front of which there are `level`; nothing if
they close a scope that is not among those. -/
def levelAfter : List Move → Nat → Option Nat
  | [], level => some level
  | .perform _ :: rest, level => levelAfter rest level
  | .openScope :: rest, level => levelAfter rest (level + 1)
  | .keepScope :: rest, level + 1 => levelAfter rest level
  | .discardScope :: rest, level + 1 => levelAfter rest level
  | .keepScope :: _, 0 => none
  | .discardScope :: _, 0 => none

/-- The moves close exactly the scopes that they open. -/
def Nested (moves : List Move) : Prop := levelAfter moves 0 = some 0

instance (moves : List Move) : Decidable (Nested moves) :=
  inferInstanceAs (Decidable (levelAfter moves 0 = some 0))

namespace Work

/-- The moves of a run. -/
def moves {α : Type} : Work α → Handle → List Move
  | done _, _ => []
  | call operation next, handle =>
      .perform operation ::
        (next (handle.perform operation).1).moves (handle.perform operation).2
  | scope body ending next, handle =>
      let inside := body.run handle.openScope
      .openScope :: (body.moves handle.openScope ++
        match ending inside.1 with
        | .keep => .keepScope :: (next inside.1 inside.2.commitScope.1).moves inside.2.commitScope.2
        | .discard | .unwind =>
            .discardScope :: (next inside.1 (.ok ())).moves inside.2.abandonScope)

/-- How a scope is run. -/
theorem run_scope {α β : Type} (body : Work β) (ending : β → Ending)
    (next : β → Except StoreError Unit → Work α) (handle : Handle) :
    (scope body ending next).run handle =
      match ending (body.run handle.openScope).1 with
      | .keep =>
          (next (body.run handle.openScope).1 (body.run handle.openScope).2.commitScope.1).run
            (body.run handle.openScope).2.commitScope.2
      | .discard | .unwind =>
          (next (body.run handle.openScope).1 (.ok ())).run
            (body.run handle.openScope).2.abandonScope := by
  cases kind : ending (body.run handle.openScope).1 with
  | keep => simp only [run, kind]
  | discard => simp only [run, kind]
  | unwind => simp only [run, kind]

/-- **A run plays its moves.** -/
theorem run_eq_play : ∀ {α : Type} (work : Work α) (handle : Handle),
    (work.run handle).2 = handle.play (work.moves handle)
  | _, .done _, _ => rfl
  | _, .call operation next, handle =>
      run_eq_play (next (handle.perform operation).1) (handle.perform operation).2
  | _, .scope body ending next, handle => by
      have inside := run_eq_play body handle.openScope
      rw [run_scope, moves, Handle.play_cons, Handle.play_append, Handle.move, ← inside]
      cases ending (body.run handle.openScope).1 with
      | keep => exact run_eq_play (next _ _) _
      | discard => exact run_eq_play (next _ _) _
      | unwind => exact run_eq_play (next _ _) _

/-- A run leaves the number of open scopes as it was. -/
theorem levelAfter_moves : ∀ {α : Type} (work : Work α) (handle : Handle) (rest : List Move)
    (level : Nat), levelAfter (work.moves handle ++ rest) level = levelAfter rest level
  | _, .done _, _, _, _ => rfl
  | _, .call operation next, handle, rest, level =>
      levelAfter_moves (next (handle.perform operation).1) (handle.perform operation).2 rest level
  | _, .scope body ending next, handle, rest, level => by
      rw [moves, List.cons_append, levelAfter, List.append_assoc, levelAfter_moves body]
      cases ending (body.run handle.openScope).1 with
      | keep => exact levelAfter_moves (next _ _) _ rest level
      | discard => exact levelAfter_moves (next _ _) _ rest level
      | unwind => exact levelAfter_moves (next _ _) _ rest level

theorem nested_moves {α : Type} (work : Work α) (handle : Handle) :
    Nested (work.moves handle) := by
  have level := levelAfter_moves work handle [] 0
  rwa [List.append_nil] at level

/-! ## Work that records nothing by hand -/

/-- No operation of the work records a change that no write has made. -/
def RecordsNothing {α : Type} : Work α → Prop
  | done _ => True
  | call (.record _) _ => False
  | call _ next => ∀ answer, (next answer).RecordsNothing
  | scope body _ next => body.RecordsNothing ∧ ∀ value closing, (next value closing).RecordsNothing

end Work

end ScopedStore
