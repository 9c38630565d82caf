import ScopedStore.Logging.Event
import ScopedStore.Model.Change

/-!
# The stack of pending changes

While a transaction runs, its changes are kept in frames: a base frame, and one more for every
open scope. A frame holds at most one change of an object, the last one that was recorded in it.

Committing a scope lays its frame over the one below, and rolling it back throws the frame away.
So what an object has become so far is the change in the innermost frame that has one
(`lookup`), and laying all frames over each other gives the same answer for all objects at once
(`snapshot`). In the end the frames are laid over each other once more, and their changes are given
away (`drain`). The base frame is never closed.
-/

set_option autoImplicit false

namespace ScopedStore

/-- The last change of each object that changed in one scope. -/
abbrev Frame : Type := SortedMap Ref Change

/-- The frames of a transaction: the one that is never closed, and those of the open scopes,
innermost first. -/
structure ChangeStack where
  base : Frame
  scopes : List Frame
  deriving DecidableEq, Inhabited

namespace ChangeStack

/-- A stack without changes and without open scopes. -/
def empty : ChangeStack := ⟨∅, []⟩

/-- All frames, innermost first. -/
def frames (stack : ChangeStack) : List Frame := stack.scopes ++ [stack.base]

/-- The number of frames. -/
def height (stack : ChangeStack) : Nat := stack.scopes.length + 1

/-- Is nothing recorded in any frame? -/
def isEmpty (stack : ChangeStack) : Bool := stack.frames.all SortedMap.isEmpty

/-- Opens a scope. -/
def openScope (stack : ChangeStack) : ChangeStack := { stack with scopes := ∅ :: stack.scopes }

/-- Records a change in the innermost frame, in the place of an earlier one of the same object. -/
def record (stack : ChangeStack) (change : Change) : ChangeStack :=
  match stack.scopes with
  | [] => { stack with base := stack.base.insert change.ref change }
  | top :: below => { stack with scopes := top.insert change.ref change :: below }

/-- Closes the innermost scope and lays its frame over the one below. -/
def commitScope (stack : ChangeStack) : Except ScopeError ChangeStack :=
  match stack.scopes with
  | [] => .error .nothingToCommit
  | [top] => .ok ⟨stack.base.insertAll top, []⟩
  | top :: parent :: below => .ok { stack with scopes := parent.insertAll top :: below }

/-- Closes the innermost scope and throws its frame away. -/
def rollBackScope (stack : ChangeStack) : Except ScopeError ChangeStack :=
  match stack.scopes with
  | [] => .error .nothingToRollBack
  | _ :: below => .ok { stack with scopes := below }

/-- The innermost change of an object. -/
def lookup (stack : ChangeStack) (ref : Ref) : Option Change :=
  stack.frames.findSome? fun frame => frame.get? ref

/-- All frames laid over each other, the inner ones over the outer ones. -/
def snapshot (stack : ChangeStack) : Frame :=
  stack.scopes.foldr (fun frame merged => merged.insertAll frame) stack.base

/-- The pending change of every changed object, in the order of their addresses. The frames are laid
over each other for this, the base frame over nothing. -/
def drain (stack : ChangeStack) : List Change :=
  (stack.frames.foldr (fun frame (merged : Frame) => merged.insertAll frame) ∅).values

/-- What is logged about the stack: its height and, from the base frame on, the addresses in
each frame, sorted as texts. -/
def describe (stack : ChangeStack) : List Event :=
  .changeStack stack.height :: stack.frames.reverse.mapIdx fun place frame =>
    let addresses := frame.keys.map Ref.display
    .changeFrame place (addresses.mergeSort fun first second => decide (first ≤ second))

end ChangeStack

end ScopedStore
