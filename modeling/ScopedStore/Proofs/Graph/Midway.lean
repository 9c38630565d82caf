import ScopedStore.Proofs.Graph.Effects
import ScopedStore.Proofs.Graph.Plans
import ScopedStore.Proofs.Versions

/-!
# Requests in the middle of a transaction

A transaction may have come a long way when a request is made in it: other requests went before,
some of them have failed, scopes are open, and others were kept or undone (`Handle.Midway`). None of
this can be told from what the request comes to. The handle shows a whole graph at any time between
two requests, and so do the contents to which its open scopes would go back
(`Handle.Midway.throughout`). What it remembers of undone updates belongs to objects that were never
deleted, for requests delete blocks alone, and blocks are never replaced; so it leads no version
away from its row (`Handle.Midway.steady`).

Hence every request has exactly its effect, or it fails for an object that is missing or in the way
and has none (`requests_have_their_effect`). It does not fail for a version.
-/

set_option autoImplicit false

namespace ScopedStore

/-! ## Handles between requests -/

namespace Handle

/-- A handle that has run nothing but requests since its transaction began on a content, in scopes
that may have been kept or abandoned meanwhile. Requests may have failed. The scope of the
transaction itself is open. -/
inductive Midway (database : Database) : Handle → Prop
  | started (tracked : Bool) (ids : IdSource) (now : Int) :
      Midway database (start database tracked ids now).openScope
  | asked {handle : Handle} (midway : Midway database handle) (request : Request) :
      Midway database (Work.run request.answer.run handle).2
  | opened {handle : Handle} (midway : Midway database handle) : Midway database handle.openScope
  | kept {handle : Handle} (midway : Midway database handle) (inner : 1 < handle.depth) :
      Midway database handle.commitScope.2
  | abandoned {handle : Handle} (midway : Midway database handle) (inner : 1 < handle.depth) :
      Midway database handle.abandonScope

/-- Work reaches nothing but what is above the scopes that are open. -/
theorem Lockstep.sameBelow_run {handle : Handle} (lockstep : handle.Lockstep) {α : Type}
    (work : Work α) : SameBelow 0 0 handle (work.run handle).2 := by
  rw [work.run_eq_play]
  exact lockstep.play_below (work.nested_moves handle) (Nat.zero_le _)

namespace Midway

variable {database : Database} {handle : Handle}

theorem lockstep (midway : handle.Midway database) : handle.Lockstep := by
  induction midway with
  | started tracked ids now => exact (Does.opened _).lockstep (lockstep_start _ _ _ _)
  | asked _ request ih => exact Work.lockstep_run ih request.answer.run
  | opened _ ih => exact (Does.opened _).lockstep ih
  | @kept handle _ inner ih =>
      have some : 0 < handle.depth := Nat.zero_lt_of_lt inner
      rw [ih.commitScope_of_open some]
      exact (Does.kept some).lockstep ih
  | @abandoned handle _ inner ih =>
      have some : 0 < handle.depth := Nat.zero_lt_of_lt inner
      rw [ih.abandonScope_of_open some]
      exact (Does.discarded some).lockstep ih

/-- The scope of the transaction is open. -/
theorem depth_pos (midway : handle.Midway database) : 0 < handle.depth := by
  induction midway with
  | started => exact Nat.one_pos
  | @asked handle midway request ih =>
      have same : (Work.run request.answer.run handle).2.depth = handle.depth :=
        (midway.lockstep.sameBelow_run request.answer.run).depth
      exact same ▸ ih
  | opened => exact Nat.succ_pos _
  | @kept handle midway inner ih =>
      rw [midway.lockstep.commitScope_of_open ih]
      exact Nat.sub_pos_of_lt inner
  | @abandoned handle midway inner ih =>
      rw [midway.lockstep.abandonScope_of_open ih]
      exact Nat.sub_pos_of_lt inner

/-- **What requests preserve is true throughout**: of the content and of the contents to which the
open scopes would go back. -/
theorem throughout (midway : handle.Midway database) {property : Database → Prop}
    (first : property database)
    (requests : ∀ request : Request, Work.Preserves property request.answer.run) :
    ∀ content ∈ handle.content :: handle.saved, property content := by
  induction midway with
  | started => exact List.forall_mem_cons.2 ⟨first, List.forall_mem_singleton.2 first⟩
  | @asked handle midway request ih =>
      obtain ⟨present, saved⟩ := List.forall_mem_cons.1 ih
      have below := (midway.lockstep.sameBelow_run request.answer.run).savepoints
      have same : (Work.run request.answer.run handle).2.saved = handle.saved :=
        congrArg (List.map Savepoint.content) below
      exact List.forall_mem_cons.2 ⟨requests request handle midway.lockstep present, same ▸ saved⟩
  | opened _ ih => exact List.forall_mem_cons.2 ⟨ih _ List.mem_cons_self, ih⟩
  | kept midway inner ih =>
      rw [midway.lockstep.commitScope_of_open midway.depth_pos]
      exact forall_contents_kept ih
  | abandoned midway inner ih =>
      rw [midway.lockstep.abandonScope_of_open midway.depth_pos]
      exact forall_contents_dropped midway.lockstep midway.depth_pos ih

end Midway

end Handle

/-- **Whatever is done in a plan, the handle behind it is between requests.** -/
theorem Plan.midway {database : Database} : ∀ {α : Type} (plan : Plan α) {handle : Handle},
    handle.Midway database → (plan.work.run handle).2.Midway database
  | _, .done _, _, midway => midway
  | _, .ask request next, handle, midway => by
      rw [work, Work.run_bind]
      exact (next _).midway (midway.asked request)
  | _, .scope body ending next, handle, midway => by
      have inside := body.midway midway.opened
      have depth : (body.work.run handle.openScope).2.depth = handle.depth + 1 :=
        (midway.lockstep.inside body.work).2.1.depth
      have inner : 1 < (body.work.run handle.openScope).2.depth :=
        depth ▸ Nat.succ_lt_succ midway.depth_pos
      rw [work, Work.run_scope]
      cases ending (body.work.run handle.openScope).1 with
      | keep => exact (next _ _).midway (inside.kept inner)
      | discard | unwind => exact (next _ _).midway (inside.abandoned inner)

/-! ## Versions -/

/-- Of all objects, an operation that requests use deletes blocks alone. -/
theorem Operation.OfGraph.kind_of_deed {α : Type} {operation : Operation α}
    (ofGraph : operation.OfGraph) {answer : α} {ref : Ref}
    (deleted : operation.deed answer = .wrote (.deleted ref)) : ref.kind = .block := by
  cases operation with
  | delete kind id =>
      rcases answer with _ | (_ | _)
      · cases deleted
      · cases deleted
      · cases deleted
        exact ofGraph
  | insert kind body | update kind body => cases answer <;> cases deleted
  | record change => cases deleted
  | get | getRef | list | count | tombstones | draw | depth | tracked | pending | allPending =>
      cases deleted

/-- **What every deed keeps that deletes no object but a block, requests keep.** -/
theorem Work.OfGraph.run_induction {motive : Handle → Prop}
    (step : ∀ {deed : Deed} {before after : Handle}, before.Lockstep →
      Handle.Does deed before after → (∀ ref, deed = .wrote (.deleted ref) → ref.kind = .block) →
      motive before → motive after) :
    ∀ {α : Type} {work : Work α}, work.OfGraph → ∀ {handle : Handle}, handle.Lockstep →
      motive handle → motive (work.run handle).2
  | _, .done _, _, _, _, now => now
  | _, .call operation next, ofGraph, handle, lockstep, now => by
      have does := handle.does_perform operation
      refine run_induction step (ofGraph.2 _) (does.lockstep lockstep) ?_
      exact step lockstep does (fun _ => ofGraph.1.kind_of_deed) now
  | _, .scope body ending next, ofGraph, handle, lockstep, now => by
      have opened := Handle.Does.opened handle
      obtain ⟨within, _, _⟩ := lockstep.inside body
      have depth := lockstep.open_inside body
      have inside : motive (body.run handle.openScope).2 :=
        run_induction step ofGraph.1 (opened.lockstep lockstep) (step lockstep opened nofun now)
      have kept := Handle.Does.kept depth
      have discarded := Handle.Does.discarded depth
      rw [run_scope]
      cases ending (body.run handle.openScope).1 with
      | keep =>
          dsimp only
          rw [within.commitScope_of_open depth]
          exact run_induction step (ofGraph.2 _ _) (kept.lockstep within)
            (step within kept nofun inside)
      | discard | unwind =>
          dsimp only
          rw [within.abandonScope_of_open depth]
          exact run_induction step (ofGraph.2 _ _) (discarded.lockstep within)
            (step within discarded nofun inside)

/-- Where the versions of an object are steady, what is remembered of it leads no version away from
its row. -/
theorem Handle.Steady.expectedVersion_eq {handle : Handle} {ref : Ref} {row : Row}
    (steady : handle.Steady ref) (found : handle.content.row? ref = some row) :
    handle.expectedVersion ref row.version = row.version := by
  rw [expectedVersion]
  cases remembered : handle.undone.get? ref with
  | none => rfl
  | some span =>
      obtain ⟨base, upwards⟩ := steady.undone span remembered
      rw [Database.standing_of_row found] at base
      exact if_neg fun ends => absurd (base.trans ends.symm) (Int.ne_of_lt upwards)

namespace Handle.Midway

variable {database : Database} {handle : Handle}

/-- **The versions of all objects but blocks are steady.** -/
theorem steady (midway : handle.Midway database) {ref : Ref} (noBlock : ref.kind ≠ .block) :
    handle.Steady ref := by
  have step {deed : Deed} {before after : Handle} (lockstep : before.Lockstep)
      (does : Does deed before after)
      (blocks : ∀ ref, deed = .wrote (.deleted ref) → ref.kind = .block)
      (steady : before.Steady ref) : after.Steady ref :=
    does.steady lockstep (fun deleted => noBlock (blocks ref deleted)) steady
  induction midway with
  | started tracked ids now =>
      exact step (lockstep_start _ _ _ _) (.opened _) nofun (steady_start database tracked ids now)
  | asked midway request ih =>
      exact Work.OfGraph.run_induction step request.ofGraph midway.lockstep ih
  | opened midway ih => exact step midway.lockstep (.opened _) nofun ih
  | kept midway inner ih =>
      rw [midway.lockstep.commitScope_of_open midway.depth_pos]
      exact step midway.lockstep (.kept midway.depth_pos) nofun ih
  | abandoned midway inner ih =>
      rw [midway.lockstep.abandonScope_of_open midway.depth_pos]
      exact step midway.lockstep (.discarded midway.depth_pos) nofun ih

end Handle.Midway

/-! ## Tables -/

namespace Database.Complete

/-- No work loses a table. -/
theorem preserves {α : Type} (work : Work α) : work.Preserves Complete :=
  Work.preserves_of_writes apply work

end Database.Complete

/-- **Every store that can be reached has all tables.** -/
theorem Store.Reached.complete {seeded : Prop} {store : Store} (reached : store.Reached seeded) :
    store.database.Complete := by
  refine reached.induction (motive := fun _ => Database.Complete)
    ⟨Database.exists_table_vacant, rfl⟩ (fun _ request => .preserves request.answer.run) ?_
  intro seeded store complete
  rcases store.ensureInitialData_answers with ⟨value, after, _, given, left⟩ | ⟨_, _, same⟩
  · have lockstep := Handle.lockstep_start store.database false store.ids store.now
    have kept := Database.Complete.preserves Graph.seed.run _
      ((Handle.Does.opened _).lockstep lockstep) complete
    rw [given] at kept
    exact left ▸ kept
  · exact same ▸ complete

/-! ## Requests -/

/-- **A handle between requests is ready for the next one.** -/
theorem Handle.Midway.ready {seeded : Prop} {store : Store} {handle : Handle}
    (midway : handle.Midway store.database) (reached : store.Reached seeded)
    (fit : handle.content.VersionsFit) : ∃ objects, handle.Ready objects := by
  have intact := midway.throughout reached.intact (fun request => request.preserves_intact seeded)
  have complete := midway.throughout reached.complete fun request =>
    .preserves request.answer.run
  obtain ⟨objects, holds, intact⟩ := intact _ List.mem_cons_self
  refine ⟨objects, midway.lockstep, complete _ List.mem_cons_self, ?_, holds, fit, intact.toOwned⟩
  exact fun ref row noBlock found => (midway.steady noBlock).expectedVersion_eq found

/-- **Every request has exactly its effect, or none.** Take a store that can be reached by requests,
and a transaction on it that has run nothing but requests so far, in scopes of any kind, some of
which may have failed. As long as every version has a next one in 64 bits, each of the six requests
that write comes to what the objects in the rows and the next id say: its answer, and the rows that
it writes, with the pending changes and the tombstone that belong to them; or the first object that
is missing, a block that its tab does not list, or the place of a new object that is taken, and then
nothing is different. -/
theorem requests_have_their_effect {seeded : Prop} {store : Store} {handle : Handle}
    (reached : store.Reached seeded) (midway : handle.Midway store.database)
    (next : handle.content.VersionsHaveNext) :
    let id := handle.ids.draw.1
    ∃ objects : Objects, handle.content.Holds objects ∧
      (∀ name, (Graph.createWorkspace name).ComesTo handle (objects.createWorkspace id name)) ∧
      (∀ workspaceId name,
        (Graph.createTab workspaceId name).ComesTo handle (objects.createTab id workspaceId name)) ∧
      (∀ tabId definition options, (Graph.createBlock tabId definition options).ComesTo handle
        (objects.createBlock id tabId definition options)) ∧
      (∀ tabId blockId,
        (Graph.deleteBlock tabId blockId).ComesTo handle (objects.deleteBlock tabId blockId)) ∧
      (∀ windowId tabId,
        (Graph.setActiveTab windowId tabId).ComesTo handle (objects.setActiveTab windowId tabId)) ∧
      ∀ windowId tabId blockId, (Graph.setActiveBlock windowId tabId blockId).ComesTo handle
        (objects.setActiveBlock windowId tabId blockId) := by
  intro id
  obtain ⟨objects, ready⟩ := midway.ready reached next.fit
  exact ⟨objects, ready.holds, Graph.comesTo_createWorkspace ready, Graph.comesTo_createTab ready,
    Graph.comesTo_createBlock ready, Graph.comesTo_deleteBlock ready,
    Graph.comesTo_setActiveTab ready, Graph.comesTo_setActiveBlock ready⟩

/-- A transaction on an empty store that has added a workspace, and has opened a scope since. -/
def Handle.withWorkspace : Handle :=
  (Work.run (Request.createWorkspace "w").answer.run
    (start Store.vacant.database true default 0).openScope).2.openScope

/-- A tab is added to the workspace. -/
theorem new_tab_has_its_effect :
    Store.vacant.Reached False ∧ Handle.withWorkspace.Midway Store.vacant.database ∧
      Handle.withWorkspace.content.VersionsHaveNext ∧
      ∃ workspace : Workspace, workspace.id = "" ∧
        (Graph.createTab "" "t").ComesTo .withWorkspace (.ok (Tab.stored "" "t",
          [.inserted ⟨.tab, Tab.stored "" "t"⟩, .updated ⟨.workspace, workspace.listing ""⟩])) := by
  have reached : Store.vacant.Reached False := .empty rfl
  have midway : Handle.withWorkspace.Midway Store.vacant.database :=
    .opened (.asked (.started true default 0) (.createWorkspace "w"))
  have versions : Handle.withWorkspace.content.VersionsHaveNext := by decide +kernel
  obtain ⟨objects, holds, _, createTab, _⟩ := requests_have_their_effect reached midway versions
  have present : (Handle.withWorkspace.content.row? ⟨.workspace, ""⟩).isSome := by decide +kernel
  have free : Handle.withWorkspace.content.row? ⟨.tab, ""⟩ = none := by decide +kernel
  obtain ⟨workspace, found, named⟩ := holds.exists_body (holds.isSome _ ▸ present)
  rw [holds.row, Option.map_eq_none_iff] at free
  refine ⟨reached, midway, versions, workspace, named, ?_⟩
  have comesTo := createTab "" "t"
  have next : Handle.withWorkspace.ids.draw.1 = "" := by decide +kernel
  have reserved : objects.reserve ⟨.tab, ""⟩ = .ok () := Objects.reserve_of_free free
  rw [next, Objects.createTab, Objects.need_of_some (Objects.find_eq_some.2 found)] at comesTo
  dsimp only [bind, Except.bind] at comesTo
  rwa [reserved] at comesTo

end ScopedStore
