import ScopedStore.Proofs.Writes

/-!
# Scopes in lockstep

Opening a scope sets a savepoint, pushes a frame and a map of versions, and raises the depth; so
the four rise and fall together (`Handle.Lockstep`). While they do, closing a scope cannot fail:
the savepoint that is named is the innermost one, and there is a frame to close. So there are
only six things that a move can do to a handle (`Handle.Does`). Which of them an operation has
done can be told from its answer (`Operation.deed`): one that fails, or only reads, leaves the
handle alone but for the ids that it has drawn. Whatever each of the six preserves is preserved
by every run (`Handle.Lockstep.play_induction`).

What was there before a scope was opened is out of reach of what happens inside it
(`Handle.Lockstep.play_below`).
-/

set_option autoImplicit false

namespace ScopedStore

/-! ## Frames -/

namespace Frames

/-- The frames with a change recorded in the innermost one. -/
def record (change : Change) : List Frame → List Frame
  | [] => []
  | top :: below => top.insert change.ref change :: below

/-- The frames with one for a new scope. -/
def opened : List Frame → List Frame
  | [] => []
  | top :: below => ∅ :: top :: below

/-- The frames when the innermost one joins the one below. -/
def kept : List Frame → List Frame
  | top :: parent :: below => parent.insertAll top :: below
  | closed => closed

/-- The frames without the innermost one. -/
def dropped : List Frame → List Frame
  | _ :: parent :: below => parent :: below
  | closed => closed

variable (frames : List Frame) (level : Nat)

theorem drop_record (change : Change) :
    (record change frames).drop (level + 1) = frames.drop (level + 1) := by
  cases frames <;> rfl

theorem drop_opened : (opened frames).drop (level + 2) = frames.drop (level + 1) := by
  cases frames <;> rfl

theorem drop_kept : (kept frames).drop (level + 1) = frames.drop (level + 2) := by
  match frames with
  | [] | _ :: _ :: _ => rfl
  | [_] => exact List.drop_nil.trans List.drop_nil.symm

theorem drop_dropped : (dropped frames).drop (level + 1) = frames.drop (level + 2) := by
  match frames with
  | [] | _ :: _ :: _ => rfl
  | [_] => exact List.drop_nil.trans List.drop_nil.symm

/-- Dropping a frame gives back the frames on which it was put. -/
theorem dropped_of_drop {frames below : List Frame} (some : below ≠ [])
    (above : frames.drop 1 = (opened below).drop 1) : dropped frames = below := by
  match frames, below with
  | _, [] => exact absurd rfl some
  | [], _ :: _ => cases above
  | [_], _ :: _ => cases above
  | _ :: _ :: _, _ :: _ => exact above

/-- All frames laid over each other, the inner ones over the outer ones. -/
def overlay : List Frame → Frame
  | [] => ∅
  | top :: below => (overlay below).insertAll top

theorem overlay_eq_foldr (frames : List Frame) :
    overlay frames = frames.foldr (fun frame (merged : Frame) => merged.insertAll frame) ∅ := by
  induction frames with
  | nil => rfl
  | cons top below ih => exact congrArg (fun merged => SortedMap.insertAll merged top) ih

end Frames

namespace ChangeStack

/-- The stack after its innermost scope was kept. -/
def kept (stack : ChangeStack) : ChangeStack :=
  match stack.scopes with
  | [] => stack
  | [top] => ⟨stack.base.insertAll top, []⟩
  | top :: parent :: below => { stack with scopes := parent.insertAll top :: below }

/-- The stack after its innermost scope was discarded. -/
def dropped (stack : ChangeStack) : ChangeStack := { stack with scopes := stack.scopes.tail }

variable {stack : ChangeStack}

theorem commitScope_of_open (opened : 0 < stack.scopes.length) :
    stack.commitScope = .ok stack.kept := by
  rw [commitScope, kept]
  match held : stack.scopes with
  | [] =>
      rw [held] at opened
      exact absurd opened (Nat.lt_irrefl 0)
  | [_] => rfl
  | _ :: _ :: _ => rfl

theorem rollBackScope_of_open (opened : 0 < stack.scopes.length) :
    stack.rollBackScope = .ok stack.dropped := by
  rw [rollBackScope, dropped]
  cases held : stack.scopes with
  | nil =>
      rw [held] at opened
      exact absurd opened (Nat.lt_irrefl 0)
  | cons top below => rfl

theorem snapshot_eq_overlay (stack : ChangeStack) :
    stack.snapshot = Frames.overlay stack.frames := by
  obtain ⟨base, scopes⟩ := stack
  induction scopes with
  | nil => exact (SortedMap.empty_insertAll base).symm
  | cons top below ih => exact congrArg (fun merged => SortedMap.insertAll merged top) ih

/-- **What is given away in the end is what the snapshot shows.** -/
theorem drain_eq (stack : ChangeStack) : stack.drain = stack.snapshot.values := by
  rw [drain, snapshot_eq_overlay, Frames.overlay_eq_foldr]

theorem frames_openScope (stack : ChangeStack) :
    stack.openScope.frames = Frames.opened stack.frames := by
  obtain ⟨base, scopes⟩ := stack
  cases scopes <;> rfl

theorem frames_record (stack : ChangeStack) (change : Change) :
    (stack.record change).frames = Frames.record change stack.frames := by
  obtain ⟨base, scopes⟩ := stack
  cases scopes <;> rfl

theorem frames_kept (stack : ChangeStack) : stack.kept.frames = Frames.kept stack.frames := by
  obtain ⟨base, scopes⟩ := stack
  match scopes with
  | [] | [_] | _ :: _ :: _ => rfl

theorem frames_dropped (stack : ChangeStack) :
    stack.dropped.frames = Frames.dropped stack.frames := by
  obtain ⟨base, scopes⟩ := stack
  match scopes with
  | [] | [_] | _ :: _ :: _ => rfl

@[simp] theorem length_scopes_record (stack : ChangeStack) (change : Change) :
    (stack.record change).scopes.length = stack.scopes.length := by
  obtain ⟨base, scopes⟩ := stack
  cases scopes <;> rfl

@[simp] theorem length_scopes_kept (stack : ChangeStack) :
    stack.kept.scopes.length = stack.scopes.length - 1 := by
  obtain ⟨base, scopes⟩ := stack
  match scopes with
  | [] | [_] | _ :: _ :: _ => rfl

@[simp] theorem length_scopes_dropped (stack : ChangeStack) :
    stack.dropped.scopes.length = stack.scopes.length - 1 :=
  List.length_tail

end ChangeStack

/-! ## Closing a scope -/

/-- The connection after it went back to its innermost savepoint. -/
def Connection.undo (connection : Connection) : Connection :=
  match connection.savepoints with
  | [] => connection
  | innermost :: outer => ⟨innermost.content, outer⟩

theorem Connection.content_undo {connection : Connection} {innermost : Savepoint}
    {outer : List Savepoint} (held : connection.savepoints = innermost :: outer) :
    connection.undo.content = innermost.content := by
  rw [undo, held]

theorem Connection.savepoints_undo (connection : Connection) :
    connection.undo.savepoints = connection.savepoints.tail := by
  obtain ⟨content, savepoints⟩ := connection
  cases savepoints <;> rfl

namespace Handle

/-- The frames of pending changes, innermost first; there are none if none are recorded. -/
def frames (handle : Handle) : List Frame :=
  (handle.changes.map ChangeStack.frames).getD []

/-- The contents to which the open scopes would go back, innermost first. -/
def saved (handle : Handle) : List Database :=
  handle.connection.savepoints.map Savepoint.content

/-- The handle after its innermost scope was kept. -/
def kept (handle : Handle) : Handle :=
  { handle with
    connection := { handle.connection with savepoints := handle.connection.savepoints.tail }
    depth := handle.depth - 1
    written := joinInnermost handle.written
    changes := handle.changes.map ChangeStack.kept
    log := handle.log ++ [.scopeCommitted handle.depth] }

/-- The handle after its innermost scope was discarded. -/
def dropped (handle : Handle) : Handle :=
  { handle with
    connection := handle.connection.undo
    depth := handle.depth - 1
    written := handle.written.tail
    undone := handle.undone.insertAll (handle.written.head?.getD ∅)
    changes := handle.changes.map ChangeStack.dropped
    log := handle.log ++ (handle.changes.map ChangeStack.describe).getD [] ++
      [.scopeRolledBack handle.depth] }

theorem allPending_eq (handle : Handle) : handle.allPending = Frames.overlay handle.frames := by
  rw [allPending, frames]
  cases handle.changes with
  | none => rfl
  | some stack => exact stack.snapshot_eq_overlay

theorem pending_eq (handle : Handle) (ref : Ref) :
    handle.pending ref = handle.frames.findSome? fun frame => frame.get? ref := by
  rw [pending, frames]
  cases handle.changes <;> rfl

/-- There are no frames exactly where changes are not recorded. -/
theorem frames_eq_nil {handle : Handle} : handle.frames = [] ↔ handle.tracked = false := by
  rw [frames, tracked]
  cases handle.changes with
  | none => exact ⟨fun _ => rfl, fun _ => rfl⟩
  | some stack =>
      refine ⟨fun none => ?_, fun none => (nomatch none)⟩
      exact absurd (List.append_eq_nil_iff.1 none).2 (List.cons_ne_nil _ _)

theorem frames_record (handle : Handle) (change : Change) :
    (handle.record change).frames = Frames.record change handle.frames := by
  rw [frames, frames, record]
  cases handle.changes with
  | none => rfl
  | some stack => exact stack.frames_record change

theorem frames_wrote (handle : Handle) (write : Write) :
    (handle.wrote write).frames = Frames.record write.change handle.frames := by
  rw [frames, changes_wrote]
  exact frames_record handle write.change

theorem frames_openScope (handle : Handle) :
    handle.openScope.frames = Frames.opened handle.frames := by
  change (Option.map ChangeStack.frames (handle.changes.map _)).getD [] = _
  rw [frames]
  cases handle.changes with
  | none => rfl
  | some stack => exact stack.frames_openScope

theorem frames_kept (handle : Handle) : handle.kept.frames = Frames.kept handle.frames := by
  rw [frames, frames, kept]
  cases handle.changes with
  | none => rfl
  | some stack => exact stack.frames_kept

theorem frames_dropped (handle : Handle) :
    handle.dropped.frames = Frames.dropped handle.frames := by
  rw [frames, frames, dropped]
  cases handle.changes with
  | none => rfl
  | some stack => exact stack.frames_dropped

/-- The names of the savepoints of so many open scopes, innermost first. -/
def savepointNames : Nat → List String
  | 0 => []
  | depth + 1 => savepointName (depth + 1) :: savepointNames depth

/-- **The records of the open scopes are in step**: there is one savepoint for each, with the
name of its depth, one map of versions and, if changes are recorded, one frame. -/
structure Lockstep (handle : Handle) : Prop where
  savepoints : handle.connection.savepoints.map Savepoint.name = savepointNames handle.depth
  written : handle.written.length = handle.depth
  frames : ∀ stack, handle.changes = some stack → stack.scopes.length = handle.depth

theorem content_start (content : Database) (tracked : Bool) (ids : IdSource) (now : Int) :
    (start content tracked ids now).content = content := rfl

/-- A transaction begins without scopes. -/
theorem lockstep_start (content : Database) (tracked : Bool) (ids : IdSource) (now : Int) :
    (start content tracked ids now).Lockstep where
  savepoints := rfl
  written := rfl
  frames stack some := by
    cases tracked with
    | true =>
        cases some
        rfl
    | false => cases some

variable {handle : Handle}

namespace Lockstep

/-- Where a scope is open its savepoint is the innermost one. -/
theorem exists_savepoint (lockstep : handle.Lockstep) (opened : 0 < handle.depth) :
    ∃ innermost outer, handle.connection.savepoints = innermost :: outer ∧
      innermost.name = savepointName handle.depth ∧
      outer.map Savepoint.name = savepointNames (handle.depth - 1) := by
  have names := lockstep.savepoints
  obtain ⟨depth, same⟩ := Nat.exists_eq_succ_of_ne_zero (Nat.ne_of_gt opened)
  rw [same, savepointNames] at names
  obtain ⟨innermost, outer, held, first, rest⟩ := List.map_eq_cons_iff.1 names
  refine ⟨innermost, outer, held, ?_, ?_⟩
  · rw [same]
    exact first
  · rw [same]
    exact rest

theorem openFrom_savepointName (lockstep : handle.Lockstep) (opened : 0 < handle.depth) :
    handle.connection.openFrom (savepointName handle.depth) = handle.connection.savepoints := by
  obtain ⟨innermost, outer, held, name, _⟩ := lockstep.exists_savepoint opened
  rw [Connection.openFrom, held, List.dropWhile_cons_of_neg]
  rw [name, bne_self_eq_false]
  exact Bool.false_ne_true

/-- Without an open scope there is no savepoint of any name. -/
theorem openFrom_of_closed (lockstep : handle.Lockstep) (closed : handle.depth = 0)
    (name : String) : handle.connection.openFrom name = [] := by
  have names := lockstep.savepoints
  rw [closed, savepointNames, List.map_eq_nil_iff] at names
  rw [Connection.openFrom, names]
  rfl

theorem mapM_commitScope (lockstep : handle.Lockstep) (opened : 0 < handle.depth) :
    handle.changes.mapM ChangeStack.commitScope = .ok (handle.changes.map ChangeStack.kept) := by
  cases recorded : handle.changes with
  | none => rfl
  | some stack =>
      have scopes := lockstep.frames stack recorded
      rw [Option.mapM_some, ChangeStack.commitScope_of_open (scopes ▸ opened)]
      rfl

theorem mapM_rollBackScope (lockstep : handle.Lockstep) (opened : 0 < handle.depth) :
    handle.changes.mapM ChangeStack.rollBackScope =
      .ok (handle.changes.map ChangeStack.dropped) := by
  cases recorded : handle.changes with
  | none => rfl
  | some stack =>
      have scopes := lockstep.frames stack recorded
      rw [Option.mapM_some, ChangeStack.rollBackScope_of_open (scopes ▸ opened)]
      rfl

/-- Keeping an open scope cannot fail. -/
theorem commitScope_of_open (lockstep : handle.Lockstep) (opened : 0 < handle.depth) :
    handle.commitScope = (.ok (), handle.kept) := by
  obtain ⟨innermost, outer, held, _⟩ := lockstep.exists_savepoint opened
  rw [commitScope, Connection.release, lockstep.openFrom_savepointName opened, held]
  simp only [lockstep.mapM_commitScope opened]
  rw [kept, held]
  rfl

/-- Undoing an open scope cannot fail. -/
theorem rollBackScope_of_open (lockstep : handle.Lockstep) (opened : 0 < handle.depth) :
    handle.rollBackScope = (.ok (), handle.dropped) := by
  obtain ⟨innermost, outer, held, name, _⟩ := lockstep.exists_savepoint opened
  have found := lockstep.openFrom_savepointName opened
  have again : Connection.openFrom ⟨innermost.content, innermost :: outer⟩
      (savepointName handle.depth) = innermost :: outer := by
    have inList : handle.connection.savepoints.dropWhile _ = handle.connection.savepoints := found
    rw [held] at inList
    exact inList
  rw [rollBackScope]
  simp only [lockstep.mapM_rollBackScope opened, Connection.rollbackTo, found, held,
    Connection.release, again]
  rw [dropped, Connection.undo, held]
  rfl

theorem abandonScope_of_open (lockstep : handle.Lockstep) (opened : 0 < handle.depth) :
    handle.abandonScope = handle.dropped := by
  rw [abandonScope, lockstep.rollBackScope_of_open opened]

/-- Where no scope is open there is nothing to undo. -/
theorem rollBackScope_of_closed (lockstep : handle.Lockstep) (closed : handle.depth = 0) :
    ∃ log, handle.rollBackScope.2 = { handle with log } := by
  have depth : handle.depth - 1 = handle.depth := by omega
  have written : handle.written = [] :=
    List.length_eq_zero_iff.1 (lockstep.written.trans closed)
  have left : { handle with
      depth := handle.depth - 1
      written := handle.written.tail
      undone := handle.undone.insertAll (handle.written.head?.getD ∅)
      log := handle.log ++ (handle.changes.map ChangeStack.describe).getD [] } =
      { handle with log := handle.log ++ (handle.changes.map ChangeStack.describe).getD [] } := by
    rw [depth, written]
    exact congrArg (fun undone => Handle.mk _ _ _ undone _ _ _ _)
      (SortedMap.insertAll_empty handle.undone)
  refine ⟨handle.log ++ (handle.changes.map ChangeStack.describe).getD [], ?_⟩
  rw [rollBackScope, left]
  cases recorded : handle.changes with
  | none =>
      simp only [Option.mapM_none, Connection.rollbackTo, lockstep.openFrom_of_closed closed,
        pure, Except.pure]
  | some stack =>
      have scopes := List.length_eq_zero_iff.1 ((lockstep.frames stack recorded).trans closed)
      have fails : stack.rollBackScope = .error .nothingToRollBack := by
        rw [ChangeStack.rollBackScope, scopes]
      simp only [Option.mapM_some, fails]
      rfl

/-- Where no scope is open, keeping one leaves no more than entries in the log. -/
theorem commitScope_of_closed (lockstep : handle.Lockstep) (closed : handle.depth = 0) :
    ∃ log, handle.commitScope.2 = { handle with log } := by
  obtain ⟨log, left⟩ := lockstep.rollBackScope_of_closed closed
  refine ⟨log, ?_⟩
  rw [commitScope, Connection.release, lockstep.openFrom_of_closed closed, ← left]
  rcases handle.rollBackScope with ⟨_ | _, _⟩
  · rfl
  · rfl

/-- Where no scope is open, abandoning one leaves no more than entries in the log. -/
theorem abandonScope_of_closed (lockstep : handle.Lockstep) (closed : handle.depth = 0) :
    ∃ log, handle.abandonScope = { handle with log } := by
  obtain ⟨log, left⟩ := lockstep.rollBackScope_of_closed closed
  rw [abandonScope]
  rcases undone : handle.rollBackScope with ⟨cause | _, after⟩
  · rw [undone] at left
    cases left
    exact ⟨_, rfl⟩
  · rw [undone] at left
    cases left
    exact ⟨_, rfl⟩

end Lockstep

/-! ## What a move does -/

end Handle

/-- What a move can do to a handle. Ids are drawn and events are logged, and that is all; or a
change is recorded that no write has made, or a row is changed, or a scope is opened, kept or
discarded. -/
inductive Deed
  | quiet
  | recorded (change : Change)
  | wrote (write : Write)
  | opened
  | kept
  | discarded
  deriving DecidableEq

/-- What an operation did, as its answer tells. -/
def Operation.deed {α : Type} : Operation α → α → Deed
  | .insert kind _, answer =>
      match answer with
      | .ok stored => .wrote (.inserted ⟨kind, stored⟩)
      | .error _ => .quiet
  | .update kind _, answer =>
      match answer with
      | .ok stored => .wrote (.updated ⟨kind, stored⟩)
      | .error _ => .quiet
  | .delete kind id, answer =>
      match answer with
      | .ok true => .wrote (.deleted ⟨kind, id⟩)
      | .ok false | .error _ => .quiet
  | .record change, _ => .recorded change
  | _, _ => .quiet

/-- No operation opens or closes a scope. -/
theorem Operation.deed_flat {α : Type} (operation : Operation α) (answer : α) :
    operation.deed answer ≠ .opened ∧ operation.deed answer ≠ .kept ∧
      operation.deed answer ≠ .discarded := by
  cases operation with
  | insert kind body | update kind body =>
      cases answer <;> exact ⟨nofun, nofun, nofun⟩
  | delete kind id =>
      rcases answer with _ | (_ | _) <;> exact ⟨nofun, nofun, nofun⟩
  | _ => exact ⟨nofun, nofun, nofun⟩

namespace Handle

variable {handle : Handle}

/-- What a move does; a scope that is not open cannot be closed. -/
def deed (handle : Handle) : Move → Deed
  | .perform operation => operation.deed (handle.perform operation).1
  | .openScope => .opened
  | .keepScope => if 0 < handle.depth then .kept else .quiet
  | .discardScope => if 0 < handle.depth then .discarded else .quiet

/-- A deed, the handle in front of it and the one behind it. -/
inductive Does : Deed → Handle → Handle → Prop
  | quiet (handle : Handle) (ids : IdSource) (log : List Event) :
      Does .quiet handle { handle with ids, log }
  | recorded (handle : Handle) (change : Change) :
      Does (.recorded change) handle (handle.record change)
  | wrote {handle : Handle} {write : Write} (fits : write.Fits handle.content) :
      Does (.wrote write) handle (handle.wrote write)
  | opened (handle : Handle) : Does .opened handle handle.openScope
  | kept {handle : Handle} (opened : 0 < handle.depth) : Does .kept handle handle.kept
  | discarded {handle : Handle} (opened : 0 < handle.depth) : Does .discarded handle handle.dropped

/-- **An operation does what its answer tells.** -/
theorem does_perform {α : Type} (handle : Handle) (operation : Operation α) :
    Does (operation.deed (handle.perform operation).1) handle (handle.perform operation).2 := by
  cases operation with
  | insert kind body =>
      rw [perform]
      cases done : handle.insert kind body with
      | error cause => exact .quiet handle handle.ids handle.log
      | ok result =>
          obtain ⟨stored, after⟩ := result
          obtain ⟨_, fits, rfl⟩ := insert_eq_ok done
          exact .wrote fits
  | update kind body =>
      rw [perform]
      cases done : handle.update kind body with
      | error cause => exact .quiet handle handle.ids handle.log
      | ok result =>
          obtain ⟨stored, after⟩ := result
          obtain ⟨_, fits, rfl⟩ := update_eq_ok done
          exact .wrote fits
  | delete kind id =>
      rw [perform]
      cases done : handle.delete kind id with
      | error cause => exact .quiet handle handle.ids handle.log
      | ok result =>
          obtain ⟨existed, after⟩ := result
          obtain ⟨rfl, fits, rfl⟩ | ⟨rfl, rfl⟩ := delete_eq_ok done
          · exact .wrote fits
          · exact .quiet _ _ _
  | draw => exact .quiet handle _ handle.log
  | record change => exact .recorded handle change
  | get | getRef | list | count | tombstones | depth | tracked | pending | allPending =>
      exact .quiet handle handle.ids handle.log

/-- **A move does its deed.** -/
theorem Lockstep.does_move (lockstep : handle.Lockstep) (move : Move) :
    Does (handle.deed move) handle (handle.move move) := by
  have closed (none : ¬0 < handle.depth) : handle.depth = 0 := Nat.eq_zero_of_not_pos none
  cases move with
  | perform operation => exact handle.does_perform operation
  | openScope => exact .opened handle
  | keepScope =>
      rw [deed, Handle.move]
      by_cases opened : 0 < handle.depth
      · rw [if_pos opened, lockstep.commitScope_of_open opened]
        exact .kept opened
      · obtain ⟨log, left⟩ := lockstep.commitScope_of_closed (closed opened)
        rw [if_neg opened, left]
        exact .quiet handle handle.ids log
  | discardScope =>
      rw [deed, Handle.move]
      by_cases opened : 0 < handle.depth
      · rw [if_pos opened, lockstep.abandonScope_of_open opened]
        exact .discarded opened
      · obtain ⟨log, left⟩ := lockstep.abandonScope_of_closed (closed opened)
        rw [if_neg opened, left]
        exact .quiet handle handle.ids log

/-! ## What every deed keeps -/

theorem length_joinInnermost (written : List VersionSpans) :
    (joinInnermost written).length = written.length - 1 := by
  match written with
  | [] | [_] | _ :: _ :: _ => rfl

theorem length_noteVersion (handle : Handle) (ref : Ref) (old new : Int) :
    (handle.noteVersion ref old new).written.length = handle.written.length := by
  obtain ⟨_, _, written, _, _, _, _, _⟩ := handle
  cases written <;> rfl

theorem length_written_wrote (handle : Handle) (write : Write) :
    (handle.wrote write).written.length = handle.written.length := by
  cases write with
  | inserted record => rfl
  | updated record => exact length_noteVersion _ record.ref (record.version - 1) record.version
  | deleted ref => rfl

/-- A deed on the frames leaves as many scopes as there are, if it does so for each stack. -/
theorem Lockstep.frames_map (lockstep : handle.Lockstep) {change : ChangeStack → ChangeStack}
    {depth : Nat} (lengths : ∀ stack, stack.scopes.length = handle.depth →
      (change stack).scopes.length = depth) :
    ∀ stack, handle.changes.map change = some stack → stack.scopes.length = depth := by
  intro stack held
  obtain ⟨before, recorded, rfl⟩ := Option.map_eq_some_iff.1 held
  exact lengths before (lockstep.frames before recorded)

/-- Every deed leaves the records in step. -/
theorem Does.lockstep {deed : Deed} {before after : Handle} (does : Does deed before after)
    (lockstep : before.Lockstep) : after.Lockstep := by
  cases does with
  | quiet ids log => exact ⟨lockstep.savepoints, lockstep.written, lockstep.frames⟩
  | recorded _ change =>
      refine ⟨lockstep.savepoints, lockstep.written, lockstep.frames_map fun stack length => ?_⟩
      exact (ChangeStack.length_scopes_record stack change).trans length
  | wrote fits =>
      refine ⟨?_, ?_, ?_⟩
      · rw [savepoints_wrote, depth_wrote]
        exact lockstep.savepoints
      · rw [length_written_wrote, depth_wrote]
        exact lockstep.written
      · rw [changes_wrote, depth_wrote]
        refine lockstep.frames_map fun stack length => ?_
        rw [ChangeStack.length_scopes_record, length]
  | opened =>
      refine ⟨congrArg _ lockstep.savepoints, congrArg Nat.succ lockstep.written,
        lockstep.frames_map fun stack length => ?_⟩
      exact congrArg Nat.succ length
  | kept opened =>
      obtain ⟨innermost, outer, held, _, names⟩ := lockstep.exists_savepoint opened
      refine ⟨?_, ?_, lockstep.frames_map fun stack length => ?_⟩
      · rw [Handle.kept, held]
        exact names
      · rw [Handle.kept, length_joinInnermost, lockstep.written]
      · rw [ChangeStack.length_scopes_kept, length]
        rfl
  | discarded opened =>
      obtain ⟨innermost, outer, held, _, names⟩ := lockstep.exists_savepoint opened
      refine ⟨?_, ?_, lockstep.frames_map fun stack length => ?_⟩
      · rw [dropped, Connection.undo, held]
        exact names
      · rw [dropped, List.length_tail, lockstep.written]
      · rw [ChangeStack.length_scopes_dropped, length]
        rfl

/-- No deed changes whether changes are recorded. -/
theorem Does.tracked_eq {deed : Deed} {before after : Handle} (does : Does deed before after) :
    after.tracked = before.tracked := by
  cases does with
  | quiet ids log => rfl
  | wrote fits => rw [tracked, changes_wrote, Option.isSome_map, tracked]
  | recorded | opened | kept | discarded => exact Option.isSome_map

/-! ## Runs -/

/-- The deeds of some moves. -/
def history (handle : Handle) : List Move → List Deed
  | [] => []
  | first :: rest => handle.deed first :: (handle.move first).history rest

@[simp] theorem history_nil (handle : Handle) : handle.history [] = [] := rfl

@[simp] theorem history_cons (handle : Handle) (first : Move) (rest : List Move) :
    handle.history (first :: rest) = handle.deed first :: (handle.move first).history rest := rfl

theorem history_append (handle : Handle) (first second : List Move) :
    handle.history (first ++ second) =
      handle.history first ++ (handle.play first).history second := by
  induction first generalizing handle with
  | nil => rfl
  | cons move rest ih =>
      rw [List.cons_append, history_cons, history_cons, play_cons, ih, List.cons_append]

namespace Lockstep

theorem play_induction_after {motive : List Deed → Handle → Prop}
    (step : ∀ {past : List Deed} {deed : Deed} {before after : Handle}, before.Lockstep →
      Does deed before after → motive past before → motive (past ++ [deed]) after)
    (past : List Deed) (lockstep : handle.Lockstep) (now : motive past handle)
    (moves : List Move) : motive (past ++ handle.history moves) (handle.play moves) := by
  induction moves generalizing handle past with
  | nil =>
      rw [history_nil, List.append_nil]
      exact now
  | cons first rest ih =>
      have does := lockstep.does_move first
      have rests := ih _ (does.lockstep lockstep) (step lockstep does now)
      rwa [List.append_assoc] at rests

/-- **What every deed keeps, every run keeps.** The property may speak of all the deeds that
have been done so far. -/
theorem play_induction {motive : List Deed → Handle → Prop}
    (step : ∀ {past : List Deed} {deed : Deed} {before after : Handle}, before.Lockstep →
      Does deed before after → motive past before → motive (past ++ [deed]) after)
    (lockstep : handle.Lockstep) (now : motive [] handle) (moves : List Move) :
    motive (handle.history moves) (handle.play moves) :=
  play_induction_after step [] lockstep now moves

theorem play (lockstep : handle.Lockstep) (moves : List Move) : (handle.play moves).Lockstep :=
  lockstep.play_induction (motive := fun _ => Lockstep)
    (fun lockstep does _ => does.lockstep lockstep) lockstep moves

theorem tracked_play (lockstep : handle.Lockstep) (moves : List Move) :
    (handle.play moves).tracked = handle.tracked :=
  lockstep.play_induction (motive := fun _ after => after.tracked = handle.tracked)
    (fun _ does now => does.tracked_eq.trans now) rfl moves

end Lockstep

/-! ## Out of reach -/

/-- What lies below the innermost `level` scopes of one handle and the innermost `last` scopes of
another is the same. -/
structure SameBelow (level last : Nat) (before after : Handle) : Prop where
  depth : after.depth + level = before.depth + last
  savepoints : after.connection.savepoints.drop last = before.connection.savepoints.drop level
  frames : after.frames.drop (last + 1) = before.frames.drop (level + 1)

variable {before after : Handle}

/-- A deed that neither opens nor closes a scope stays above the scopes that are open. -/
theorem Does.sameBelow {deed : Deed} (does : Does deed before after) (level : Nat)
    (flat : deed ≠ .opened ∧ deed ≠ .kept ∧ deed ≠ .discarded) :
    SameBelow level level before after := by
  cases does with
  | quiet ids log => exact ⟨rfl, rfl, rfl⟩
  | recorded _ change =>
      refine ⟨rfl, rfl, ?_⟩
      rw [frames_record, Frames.drop_record]
  | @wrote _ write fits =>
      refine ⟨by rw [depth_wrote], by rw [savepoints_wrote], ?_⟩
      rw [frames_wrote, Frames.drop_record]
  | opened => exact absurd rfl flat.1
  | kept => exact absurd rfl flat.2.1
  | discarded => exact absurd rfl flat.2.2

theorem sameBelow_openScope (handle : Handle) (level : Nat) :
    SameBelow level (level + 1) handle handle.openScope where
  depth := Nat.add_right_comm handle.depth 1 level
  savepoints := rfl
  frames := by rw [frames_openScope, Frames.drop_opened]

theorem sameBelow_kept (opened : 0 < handle.depth) (level : Nat) :
    SameBelow (level + 1) level handle handle.kept where
  depth := by
    have closed : handle.kept.depth = handle.depth - 1 := rfl
    omega
  savepoints := List.drop_tail
  frames := by rw [frames_kept, Frames.drop_kept]

theorem sameBelow_dropped (opened : 0 < handle.depth) (level : Nat) :
    SameBelow (level + 1) level handle handle.dropped where
  depth := by
    have closed : handle.dropped.depth = handle.depth - 1 := rfl
    omega
  savepoints := by
    rw [dropped, Connection.savepoints_undo]
    exact List.drop_tail
  frames := by rw [frames_dropped, Frames.drop_dropped]

theorem SameBelow.trans {first second third : Handle} {level middle last : Nat}
    (same : SameBelow level middle first second) (other : SameBelow middle last second third) :
    SameBelow level last first third where
  depth := by
    have := same.depth
    have := other.depth
    omega
  savepoints := other.savepoints.trans same.savepoints
  frames := other.frames.trans same.frames

/-- **What was there before a scope was opened is out of reach of what happens inside it.** -/
theorem Lockstep.play_below (lockstep : handle.Lockstep) {moves : List Move} {level last : Nat}
    (levels : levelAfter moves level = some last) (opened : level ≤ handle.depth) :
    SameBelow level last handle (handle.play moves) := by
  induction moves generalizing handle level with
  | nil =>
      cases levels
      exact ⟨rfl, rfl, rfl⟩
  | cons first rest ih =>
      have does := lockstep.does_move first
      have next := does.lockstep lockstep
      cases first with
      | perform operation =>
          have same := does.sameBelow level (operation.deed_flat _)
          refine same.trans (ih next levels ?_)
          have := same.depth
          omega
      | openScope =>
          exact (handle.sameBelow_openScope level).trans
            (ih next levels (Nat.succ_le_succ opened))
      | keepScope =>
          -- The level counts the scopes that were opened here, so only such a scope is closed.
          cases level with
          | zero => cases levels
          | succ level =>
              have some : 0 < handle.depth := Nat.zero_lt_of_lt opened
              have same := sameBelow_kept some level
              rw [play_cons, Handle.move, lockstep.commitScope_of_open some]
              refine same.trans (ih (Does.lockstep (.kept some) lockstep) levels ?_)
              have := same.depth
              omega
      | discardScope =>
          cases level with
          | zero => cases levels
          | succ level =>
              have some : 0 < handle.depth := Nat.zero_lt_of_lt opened
              have same := sameBelow_dropped some level
              rw [play_cons, Handle.move, lockstep.abandonScope_of_open some]
              refine same.trans (ih (Does.lockstep (.discarded some) lockstep) levels ?_)
              have := same.depth
              omega

end Handle

end ScopedStore
