import Mathlib.Data.List.Nodup
import ScopedStore.Proofs.Readings
import ScopedStore.Proofs.SideBySide
import ScopedStore.Proofs.Transactions

/-!
# The records of the open scopes

Four things are counted by hand where scopes are opened and closed: the depth, the savepoints, the
maps of versions and the frames. At every point of every program they are the same number, and the
savepoints bear the names of the depths from the innermost one down to 1 (`Handle.InStep`), so the
name under which a scope is closed is that of the innermost savepoint and of no other one.

A program closes only what it has opened. So where a scope is closed there is one to close, in all
four records, and closing cannot fail. That scopes were closed more often than they were opened is
therefore nothing that a program is ever told: not by the end of a scope (`Reply.Disciplined`), not
by an operation (`Handle.disciplined_get` and the lemmas behind it), and not by a request to the
graph, which is made of these (`Request.disciplined`).
-/

set_option autoImplicit false

namespace ScopedStore

/-! ## Names of savepoints -/

namespace Handle

theorem savepointName_injective : Function.Injective savepointName := by
  intro first second same
  have digits : (toString first).toList = (toString second).toList :=
    congrArg String.toList ((String.append_right_inj _).1 same)
  rw [Nat.toString_eq_repr, Nat.toString_eq_repr, Nat.toList_repr, Nat.toList_repr] at digits
  rw [← @Nat.ofDigitChars_ten_toDigits first, digits, Nat.ofDigitChars_ten_toDigits]

theorem savepointNames_eq (depth : Nat) :
    savepointNames depth =
      ((List.range depth).map fun outer => savepointName (outer + 1)).reverse := by
  induction depth with
  | zero => rfl
  | succ depth ih =>
      rw [savepointNames, ih, List.range_succ, List.map_append, List.reverse_append]
      rfl

theorem nodup_savepointNames (depth : Nat) : (savepointNames depth).Nodup := by
  rw [savepointNames_eq, List.nodup_reverse]
  exact List.nodup_range.map fun _ _ same => Nat.succ.inj (savepointName_injective same)

@[simp] theorem length_savepointNames (depth : Nat) : (savepointNames depth).length = depth := by
  rw [savepointNames_eq, List.length_reverse, List.length_map, List.length_range]

/-- **What is counted for the open scopes**: as many savepoints and maps of versions as there are
open scopes, and one frame more, if changes are recorded. The savepoints bear the names of the
depths, each one once, and the name of the present depth is that of the innermost one. -/
structure InStep (handle : Handle) : Prop where
  savepoints : handle.connection.savepoints.length = handle.depth
  written : handle.written.length = handle.depth
  frames : ∀ stack, handle.changes = some stack → stack.frames.length = handle.depth + 1
  named : handle.connection.savepoints.map Savepoint.name =
    ((List.range handle.depth).map fun outer => savepointName (outer + 1)).reverse
  distinct : (handle.connection.savepoints.map Savepoint.name).Nodup
  innermost : 0 < handle.depth →
    handle.connection.openFrom (savepointName handle.depth) = handle.connection.savepoints

theorem Lockstep.inStep {handle : Handle} (lockstep : handle.Lockstep) : handle.InStep where
  savepoints := by
    rw [← List.length_map, lockstep.savepoints, length_savepointNames]
  written := lockstep.written
  frames stack recorded := by
    rw [ChangeStack.frames, List.length_append, lockstep.frames stack recorded]
    rfl
  named := lockstep.savepoints.trans (savepointNames_eq _)
  distinct := lockstep.savepoints ▸ nodup_savepointNames _
  innermost := lockstep.openFrom_savepointName

end Handle

/-! ## Points at which scopes are closed -/

theorem levelAfter_append (first second : List Move) (level : Nat) :
    levelAfter (first ++ second) level = (levelAfter first level).bind (levelAfter second) := by
  induction first generalizing level with
  | nil => rfl
  | cons move rest ih =>
      cases move with
      | perform operation => exact ih level
      | openScope => exact ih (level + 1)
      | keepScope | discardScope =>
          cases level with
          | zero => rfl
          | succ level => exact ih level

/-- Where a program closes a scope, one is open. -/
theorem Handle.Lockstep.depth_pos_of_nested {handle : Handle} (lockstep : handle.Lockstep)
    {past rest : List Move} {last : Move} (closes : last = .keepScope ∨ last = .discardScope)
    (nested : Nested (past ++ last :: rest)) : 0 < (handle.play past).depth := by
  rw [Nested, levelAfter_append] at nested
  obtain ⟨level, levels, behind⟩ := Option.bind_eq_some_iff.1 nested
  have depth := (lockstep.play_below levels (Nat.zero_le _)).depth
  cases level with
  | zero => rcases closes with rfl | rfl <;> cases behind
  | succ level => omega

/-! ## Nothing is told of misuse -/

/-- The result does not tell that scopes were closed more often than they were opened. -/
def Disciplined {α : Type} (result : Except StoreError α) : Prop :=
  ∀ misuse, result ≠ .error (.scope misuse)

section Disciplined

variable {α β : Type}

theorem disciplined_ok (value : α) : Disciplined (.ok value) := nofun

theorem Disciplined.bind {result : Except StoreError α} {next : α → Except StoreError β}
    (disciplined : Disciplined result) (later : ∀ value, Disciplined (next value)) :
    Disciplined (result >>= next) := by
  intro misuse failed
  rcases bind_eq_error.1 failed with here | ⟨value, _, there⟩
  · exact disciplined misuse here
  · exact later value misuse there

theorem Disciplined.map {result : Except StoreError α} (disciplined : Disciplined result)
    (change : α → β) : Disciplined (result.map change) :=
  fun misuse failed => disciplined misuse (map_eq_error.1 failed)

theorem Disciplined.mapM {items : List α} {read : α → Except StoreError β}
    (each : ∀ item, Disciplined (read item)) : Disciplined (items.mapM read) := by
  intro misuse failed
  obtain ⟨item, _, wrong⟩ := exists_of_mapM_eq_error failed
  exact each item misuse wrong

/-- The repository knows nothing of scopes. -/
theorem disciplined_lift (result : Except RepositoryError α) :
    Disciplined (Handle.lift result) := by
  intro misuse failed
  obtain ⟨cause, _, translated⟩ := mapError_eq_error.1 failed
  cases cause <;> cases translated

end Disciplined

namespace Handle

variable (handle : Handle) (kind : Kind) (id : String)

theorem disciplined_decode (stored : StoredRecord) : Disciplined (decode kind stored) := by
  intro misuse failed
  rw [decode] at failed
  split at failed <;> cases failed

theorem disciplined_get : Disciplined (handle.get kind id) := by
  refine (disciplined_lift _).bind fun found => ?_
  cases found with
  | none => exact disciplined_ok none
  | some stored => exact (disciplined_decode kind stored).bind fun _ => disciplined_ok _

theorem disciplined_getRef (ref : Ref) : Disciplined (handle.getRef ref) := by
  refine (disciplined_lift _).bind fun found => ?_
  cases found with
  | none => exact disciplined_ok none
  | some stored =>
      dsimp only
      split
      · exact disciplined_ok _
      · exact nofun

theorem disciplined_list : Disciplined (handle.list kind) :=
  (disciplined_lift _).bind fun _ => .mapM (disciplined_decode kind)

theorem disciplined_insert (body : kind.Body) : Disciplined (handle.insert kind body) :=
  (disciplined_lift _).bind fun _ => disciplined_ok _

theorem disciplined_update (body : kind.Body) : Disciplined (handle.update kind body) :=
  (disciplined_lift _).bind fun _ => disciplined_ok _

theorem disciplined_delete : Disciplined (handle.delete kind id) := by
  refine (disciplined_lift _).bind fun deleted => ?_
  dsimp only
  split
  · exact (disciplined_lift _).bind fun _ => disciplined_ok _
  · exact disciplined_ok _

theorem disciplined_settle {α : Type} {result : Except StoreError (α × Handle)}
    (disciplined : Disciplined result) : Disciplined (handle.settle result).1 := by
  intro misuse failed
  cases result with
  | ok value => cases failed
  | error cause =>
      cases failed
      exact disciplined misuse rfl

end Handle

/-- Whether an operation has failed, and for what. -/
def Operation.verdict {α : Type} : Operation α → α → Except StoreError Unit
  | .get _ _, answer => answer.map fun _ => ()
  | .getRef _, answer => answer.map fun _ => ()
  | .list _, answer => answer.map fun _ => ()
  | .count _, answer => answer.map fun _ => ()
  | .tombstones, answer => answer.map fun _ => ()
  | .insert _ _, answer => answer.map fun _ => ()
  | .update _ _, answer => answer.map fun _ => ()
  | .delete _ _, answer => answer.map fun _ => ()
  | .draw, _ | .depth, _ | .tracked, _ | .pending _, _ | .allPending, _ | .record _, _ => .ok ()

theorem Handle.disciplined_perform {α : Type} (handle : Handle) (operation : Operation α) :
    Disciplined (operation.verdict (handle.perform operation).1) := by
  cases operation with
  | get kind id => exact (handle.disciplined_get kind id).map _
  | getRef ref => exact (handle.disciplined_getRef ref).map _
  | list kind => exact (handle.disciplined_list kind).map _
  | count kind => exact (disciplined_lift _).map _
  | tombstones => exact (disciplined_lift _).map _
  | insert kind body =>
      exact (handle.disciplined_settle (handle.disciplined_insert kind body)).map _
  | update kind body =>
      exact (handle.disciplined_settle (handle.disciplined_update kind body)).map _
  | delete kind id => exact (handle.disciplined_settle (handle.disciplined_delete kind id)).map _
  | draw | depth | tracked | pending | allPending | record => exact disciplined_ok ()

/-- The reply tells nothing of scopes that were closed more often than they were opened: a scope has
closed, and an operation has not failed for that. -/
def Reply.Disciplined : Reply → Prop
  | .answer operation given => ScopedStore.Disciplined (operation.verdict given)
  | .outcome _ closing => closing = .ok ()

/-- **All that a program is told is disciplined.** -/
theorem Work.disciplined_replies {α : Type} (work : Work α) {handle : Handle}
    (lockstep : handle.Lockstep) : ∀ reply ∈ work.replies handle, reply.Disciplined := by
  induction work generalizing handle with
  | done value =>
      rw [replies]
      exact List.forall_mem_nil _
  | call operation next later =>
      have behind := (handle.does_perform operation).lockstep lockstep
      rw [replies]
      exact List.forall_mem_cons.2 ⟨handle.disciplined_perform operation, later _ behind⟩
  | scope body ending next inside later =>
      obtain ⟨behind, _, replied⟩ := lockstep.scope_closes body ending next
      have opened : handle.openScope.Lockstep := (Handle.Does.opened handle).lockstep lockstep
      rw [replied]
      exact List.forall_mem_append.2 ⟨inside opened, List.forall_mem_cons.2 ⟨rfl, later _ _ behind⟩⟩

/-! ## Requests -/

namespace Transaction

variable {α β : Type}

/-- The work never fails because scopes were closed more often than they were opened. -/
def Disciplined (work : Transaction α) : Prop :=
  ∀ handle : Handle, handle.Lockstep → ScopedStore.Disciplined (Work.run work.run handle).1

theorem disciplined_pure (value : α) : (pure value : Transaction α).Disciplined :=
  fun _ _ => disciplined_ok value

theorem disciplined_notFound (ref : Ref) : (throw (.notFound ref) : Transaction α).Disciplined :=
  fun _ _ => nofun

theorem Disciplined.bind {first : Transaction α} {next : α → Transaction β}
    (disciplined : first.Disciplined) (later : ∀ value, (next value).Disciplined) :
    (first >>= next).Disciplined := by
  intro handle lockstep
  have here := disciplined handle lockstep
  have behind := Work.lockstep_run lockstep first.run
  rw [run_bind]
  cases answer : (Work.run first.run handle).1 with
  | ok value => exact later value _ behind
  | error cause =>
      rw [answer] at here
      intro misuse failed
      cases failed
      exact here misuse rfl

theorem Disciplined.nested {work : Transaction α} (disciplined : work.Disciplined) :
    work.nested.Disciplined := by
  intro handle lockstep
  rw [(lockstep.nested_leaves_no_trace work).1]
  exact disciplined _ ((Handle.Does.opened handle).lockstep lockstep)

theorem disciplined_draw : draw.Disciplined := fun _ _ => disciplined_ok _

theorem disciplined_insert (kind : Kind) (body : kind.Body) :
    (ask (.insert kind body)).Disciplined :=
  fun handle _ => handle.disciplined_settle (handle.disciplined_insert kind body)

theorem disciplined_update (kind : Kind) (body : kind.Body) :
    (ask (.update kind body)).Disciplined :=
  fun handle _ => handle.disciplined_settle (handle.disciplined_update kind body)

theorem disciplined_delete (kind : Kind) (id : String) : (ask (.delete kind id)).Disciplined :=
  fun handle _ => handle.disciplined_settle (handle.disciplined_delete kind id)

theorem disciplined_mustGet (kind : Kind) (id : String) : (mustGet kind id).Disciplined := by
  refine .bind (fun handle _ => handle.disciplined_get kind id) fun found => ?_
  cases found with
  | none => exact disciplined_notFound _
  | some body => exact disciplined_pure body

end Transaction

namespace Graph

open Transaction

theorem disciplined_createWorkspace (name : String) : (createWorkspace name).Disciplined :=
  .bind disciplined_draw fun _ => disciplined_insert _ _

theorem disciplined_createTab (workspaceId name : String) :
    (createTab workspaceId name).Disciplined :=
  .nested <| .bind (disciplined_mustGet _ _) fun _ => .bind disciplined_draw fun _ =>
    .bind (disciplined_insert _ _) fun _ => .bind (disciplined_update _ _) fun _ =>
      disciplined_pure _

theorem disciplined_createBlock (tabId : String) (definition : BlockDefinition)
    (runtimeOptions : Option RuntimeOptions) :
    (createBlock tabId definition runtimeOptions).Disciplined :=
  .nested <| .bind (disciplined_mustGet _ _) fun _ => .bind disciplined_draw fun _ =>
    .bind (disciplined_insert _ _) fun _ => .bind (disciplined_update _ _) fun _ =>
      disciplined_pure _

theorem disciplined_deleteBlock (tabId blockId : String) :
    (deleteBlock tabId blockId).Disciplined := by
  refine .nested <| .bind (disciplined_mustGet _ _) fun tab => ?_
  dsimp only
  split
  · exact disciplined_notFound _
  · exact .bind (disciplined_update _ _) fun _ => .bind (disciplined_delete _ _) fun _ =>
      disciplined_pure _

theorem disciplined_setActiveTab (windowId tabId : String) :
    (setActiveTab windowId tabId).Disciplined :=
  .nested <| .bind (disciplined_mustGet _ _) fun _ => .bind (disciplined_mustGet _ _) fun _ =>
    .bind (disciplined_update _ _) fun _ => disciplined_pure _

theorem disciplined_setActiveBlock (windowId tabId blockId : String) :
    (setActiveBlock windowId tabId blockId).Disciplined := by
  refine .nested <| .bind (disciplined_mustGet _ _) fun window =>
    .bind (disciplined_mustGet _ _) fun tab => ?_
  dsimp only
  split
  · exact .bind (disciplined_update _ _) fun _ => disciplined_pure _
  · exact disciplined_notFound _

theorem disciplined_getClient : getClient.Disciplined := by
  refine .bind (fun handle _ => handle.disciplined_list .client) fun clients => ?_
  cases clients with
  | nil => exact disciplined_notFound _
  | cons client rest => exact disciplined_pure client

theorem disciplined_getWindowView (windowId : String) : (getWindowView windowId).Disciplined :=
  .bind (disciplined_mustGet _ _) fun _ => disciplined_pure _

end Graph

open Transaction ScopedStore.Graph in
/-- **No request fails because scopes were closed more often than they were opened.** -/
theorem Request.disciplined (request : Request) : request.answer.Disciplined := by
  cases request with
  | createWorkspace name =>
      exact .bind (disciplined_createWorkspace name) fun _ => disciplined_pure _
  | createTab workspaceId name =>
      exact .bind (disciplined_createTab workspaceId name) fun _ => disciplined_pure _
  | createBlock tabId definition runtimeOptions =>
      exact .bind (disciplined_createBlock tabId definition runtimeOptions) fun _ =>
        disciplined_pure _
  | deleteBlock tabId blockId =>
      exact .bind (disciplined_deleteBlock tabId blockId) fun _ => disciplined_pure _
  | setActiveTab windowId tabId =>
      exact .bind (disciplined_setActiveTab windowId tabId) fun _ => disciplined_pure _
  | setActiveBlock windowId tabId blockId =>
      exact .bind (disciplined_setActiveBlock windowId tabId blockId) fun _ => disciplined_pure _
  | getClient => exact .bind disciplined_getClient fun _ => disciplined_pure _
  | getWindowView windowId =>
      exact .bind (disciplined_getWindowView windowId) fun _ => disciplined_pure _
  | getMainView =>
      exact .bind (.bind disciplined_getClient fun _ => disciplined_getWindowView _) fun _ =>
        disciplined_pure _

/-- **Scopes stay in lockstep.** Take any program in the outermost scope of a transaction. At every
point of its run the open scopes are counted alike by the depth, the savepoints, the maps of
versions and the frames. Where it closes a scope, keeping or discarding it, this succeeds; it is
never told that scopes were closed more often than they were opened, nor is any request that is
made at any point. In the end no scope is open, and all that is recorded is in the frame that is
never closed. -/
theorem scopes_stay_in_lockstep {α : Type} (content : Database) (tracked : Bool) (ids : IdSource)
    (now : Int) (work : Work α) (ending : α → Ending) :
    let start := Handle.start content tracked ids now
    let whole := Work.scope work ending fun value closing => .done (value, closing)
    let last := (whole.run start).2
    (∀ past rest, whole.moves start = past ++ rest →
      (start.play past).InStep ∧
      ∀ request : Request, Disciplined (Work.run request.answer.run (start.play past)).1) ∧
    (∀ past rest, whole.moves start = past ++ .keepScope :: rest →
      (start.play past).commitScope.1 = .ok ()) ∧
    (∀ past rest, whole.moves start = past ++ .discardScope :: rest →
      (start.play past).rollBackScope.1 = .ok ()) ∧
    (∀ reply ∈ whole.replies start, reply.Disciplined) ∧
    last.depth = 0 ∧
      ∀ stack, last.changes = some stack →
        stack.frames = [stack.base] ∧ last.finish = stack.base.values := by
  intro start whole last
  have lockstep : start.Lockstep := Handle.lockstep_start content tracked ids now
  have nested : Nested (whole.moves start) := whole.nested_moves start
  have opened {past rest : List Move} {move : Move}
      (closes : move = .keepScope ∨ move = .discardScope)
      (split : whole.moves start = past ++ move :: rest) : 0 < (start.play past).depth :=
    lockstep.depth_pos_of_nested closes (split ▸ nested)
  refine ⟨fun past rest _ => ⟨(lockstep.play past).inStep, fun request => ?_⟩,
    fun past rest split => ?_, fun past rest split => ?_, whole.disciplined_replies lockstep, ?_⟩
  · exact request.disciplined _ (lockstep.play past)
  · rw [(lockstep.play past).commitScope_of_open (opened (.inl rfl) split)]
  · rw [(lockstep.play past).rollBackScope_of_open (opened (.inr rfl) split)]
  · have closed : last.depth = 0 := by
      have level := (lockstep.play_below nested (Nat.zero_le _)).depth
      rw [← whole.run_eq_play] at level
      exact level
    have after : last.Lockstep := Work.lockstep_run lockstep whole
    refine ⟨closed, fun stack recorded => ?_⟩
    have scopes : stack.scopes = [] :=
      List.length_eq_zero_iff.1 ((after.frames stack recorded).trans closed)
    refine ⟨by rw [ChangeStack.frames, scopes, List.nil_append], ?_⟩
    rw [Handle.finish, recorded]
    dsimp only
    rw [stack.drain_eq, ChangeStack.snapshot, scopes]
    rfl

/-- Where a new tab is about to be given up in a scope of its own, two scopes are open, and the
inner one can be discarded. -/
theorem scope_of_draft_is_in_step :
    let insertion : Operation (Except StoreError Tab) := .insert .tab (Tab.new "t" "draft")
    let work : Work Unit := .scope (.ask insertion) (fun _ => .discard) fun _ _ => .done ()
    let whole := Work.scope work (fun _ => .keep) fun value closing => .done (value, closing)
    let start := Handle.start .vacant true default 0
    let past : List Move := [.openScope, .openScope, .perform insertion]
    whole.moves start = past ++ .discardScope :: [.keepScope] ∧
      (start.play past).depth = 2 ∧
      (start.play past).connection.savepoints.map Savepoint.name =
        ["wavestore_scope_2", "wavestore_scope_1"] ∧
      (start.play past).rollBackScope.1 = .ok () := by
  intro insertion work whole start past
  have split : whole.moves start = past ++ .discardScope :: [.keepScope] := rfl
  obtain ⟨points, _, discards, _⟩ :=
    scopes_stay_in_lockstep .vacant true default 0 work fun _ => .keep
  have named := (points past _ split).1.named
  have depth : (start.play past).depth = 2 := by decide +kernel
  rw [depth] at named
  exact ⟨split, depth, named, discards past _ split⟩

end ScopedStore
