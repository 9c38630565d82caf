import ScopedStore.Domain.Service
import ScopedStore.Proofs.Moves

/-!
# What a program asks about

Most operations are about the objects of the store. Some are about the transaction itself: the
number of its open scopes, the changes that it has recorded, or one more of them. A program that
avoids a topic cannot tell two transactions apart that differ in nothing else, so this is what
many statements ask of a program.

What requests use is told once, operation by operation (`Request.ofGraph`): whatever is asked of the
graph is about objects alone (`Request.avoids`), and of all objects it deletes blocks alone.
-/

set_option autoImplicit false

namespace ScopedStore

/-- What an operation is about: the objects, their tombstones and new ids, or the number of open
scopes, or whether changes are recorded and which are pending, or a change that no write has
made. -/
inductive Topic
  | objects
  | depth
  | changes
  | forcing
  deriving DecidableEq

/-- What an operation is about. -/
def Operation.topic {α : Type} : Operation α → Topic
  | .depth => .depth
  | .tracked | .pending _ | .allPending => .changes
  | .record _ => .forcing
  | _ => .objects

namespace Work

/-- No operation of the work is about one of the topics. -/
def Avoids (topics : List Topic) {α : Type} : Work α → Prop
  | done _ => True
  | call operation next => operation.topic ∉ topics ∧ ∀ answer, (next answer).Avoids topics
  | scope body _ next =>
      body.Avoids topics ∧ ∀ value closing, (next value closing).Avoids topics

variable {topics : List Topic}

theorem avoids_nil : ∀ {α : Type} (work : Work α), work.Avoids []
  | _, .done _ => trivial
  | _, .call _ next => ⟨List.not_mem_nil, fun answer => avoids_nil (next answer)⟩
  | _, .scope body _ next =>
      ⟨avoids_nil body, fun value closing => avoids_nil (next value closing)⟩

/-- Work that avoids the recording of changes by hand does not record any. -/
theorem Avoids.recordsNothing : ∀ {α : Type} {work : Work α},
    work.Avoids [.forcing] → work.RecordsNothing
  | _, .done _, _ => trivial
  | _, .call operation next, avoids => by
      have rests := fun answer => (avoids.2 answer).recordsNothing
      cases operation with
      | record change => exact absurd (List.mem_singleton_self _) avoids.1
      | _ => exact rests
  | _, .scope _ _ _, avoids =>
      ⟨avoids.1.recordsNothing, fun value closing => (avoids.2 value closing).recordsNothing⟩

end Work

/-! ## What requests use -/

/-- Requests look for objects, draw ids, store objects and replace them. Of all objects they delete
blocks alone. -/
def Operation.OfGraph {α : Type} : Operation α → Prop
  | .get _ _ | .list _ | .count _ | .insert _ _ | .update _ _ | .draw => True
  | .delete kind _ => kind = .block
  | _ => False

theorem Operation.OfGraph.topic_eq {α : Type} {operation : Operation α}
    (ofGraph : operation.OfGraph) : operation.topic = .objects := by
  cases operation with
  | get | list | count | insert | update | draw | delete => rfl
  | getRef | tombstones | depth | tracked | pending | allPending | record => exact ofGraph.elim

namespace Work

/-- Every operation of the work is one that requests use. -/
def OfGraph {α : Type} : Work α → Prop
  | done _ => True
  | call operation next => operation.OfGraph ∧ ∀ answer, (next answer).OfGraph
  | scope body _ next => body.OfGraph ∧ ∀ value closing, (next value closing).OfGraph

theorem OfGraph.bind {β : Type} : ∀ {α : Type} {work : Work α} {next : α → Work β},
    work.OfGraph → (∀ value, (next value).OfGraph) → (work.bind next).OfGraph
  | _, .done value, _, _, later => later value
  | _, .call _ _, _, ofGraph, later => ⟨ofGraph.1, fun answer => (ofGraph.2 answer).bind later⟩
  | _, .scope _ _ _, _, ofGraph, later =>
      ⟨ofGraph.1, fun value closing => (ofGraph.2 value closing).bind later⟩

/-- Such work avoids all topics but the objects. -/
theorem OfGraph.avoids {topics : List Topic} (others : .objects ∉ topics) :
    ∀ {α : Type} {work : Work α}, work.OfGraph → work.Avoids topics
  | _, .done _, _ => trivial
  | _, .call _ _, ofGraph =>
      ⟨ofGraph.1.topic_eq ▸ others, fun answer => (ofGraph.2 answer).avoids others⟩
  | _, .scope _ _ _, ofGraph =>
      ⟨ofGraph.1.avoids others, fun value closing => (ofGraph.2 value closing).avoids others⟩

end Work

namespace Transaction

variable {α β : Type}

/-- No operation of the work is about one of the topics. -/
def Avoids (topics : List Topic) (work : Transaction α) : Prop := Work.Avoids topics work.run

/-- Every operation of the work is one that requests use. -/
def OfGraph (work : Transaction α) : Prop := Work.OfGraph work.run

theorem ofGraph_pure (value : α) : (pure value : Transaction α).OfGraph := trivial

theorem ofGraph_throw (cause : StoreError) : (throw cause : Transaction α).OfGraph := trivial

theorem OfGraph.bind {work : Transaction α} {next : α → Transaction β} (ofGraph : work.OfGraph)
    (later : ∀ value, (next value).OfGraph) : (work >>= next).OfGraph := by
  refine Work.OfGraph.bind ofGraph fun answer => ?_
  cases answer with
  | ok value => exact later value
  | error cause => trivial

theorem OfGraph.nested {work : Transaction α} (ofGraph : work.OfGraph) : work.nested.OfGraph :=
  ⟨ofGraph, fun _ _ => trivial⟩

theorem ofGraph_ask {operation : Operation (Except StoreError α)} (ofGraph : operation.OfGraph) :
    (ask operation).OfGraph :=
  ⟨ofGraph, fun _ => trivial⟩

theorem ofGraph_draw : draw.OfGraph := ⟨trivial, fun _ => trivial⟩

theorem ofGraph_mustGet (kind : Kind) (id : String) : (mustGet kind id).OfGraph := by
  refine .bind (ofGraph_ask trivial) fun found => ?_
  cases found with
  | none => exact ofGraph_throw _
  | some body => exact ofGraph_pure body

end Transaction

namespace Graph

open Transaction

theorem ofGraph_createWorkspace (name : String) : (createWorkspace name).OfGraph :=
  .bind ofGraph_draw fun _ => ofGraph_ask trivial

theorem ofGraph_createTab (workspaceId name : String) : (createTab workspaceId name).OfGraph :=
  .nested <| .bind (ofGraph_mustGet _ _) fun _ => .bind ofGraph_draw fun _ =>
    .bind (ofGraph_ask trivial) fun _ => .bind (ofGraph_ask trivial) fun _ => ofGraph_pure _

theorem ofGraph_createBlock (tabId : String) (definition : BlockDefinition)
    (runtimeOptions : Option RuntimeOptions) :
    (createBlock tabId definition runtimeOptions).OfGraph :=
  .nested <| .bind (ofGraph_mustGet _ _) fun _ => .bind ofGraph_draw fun _ =>
    .bind (ofGraph_ask trivial) fun _ => .bind (ofGraph_ask trivial) fun _ => ofGraph_pure _

theorem ofGraph_deleteBlock (tabId blockId : String) : (deleteBlock tabId blockId).OfGraph := by
  refine .nested <| .bind (ofGraph_mustGet _ _) fun tab => ?_
  dsimp only
  split
  · exact ofGraph_throw _
  · exact .bind (ofGraph_ask trivial) fun _ => .bind (ofGraph_ask rfl) fun _ => ofGraph_pure _

theorem ofGraph_setActiveTab (windowId tabId : String) : (setActiveTab windowId tabId).OfGraph :=
  .nested <| .bind (ofGraph_mustGet _ _) fun _ => .bind (ofGraph_mustGet _ _) fun _ =>
    .bind (ofGraph_ask trivial) fun _ => ofGraph_pure _

theorem ofGraph_setActiveBlock (windowId tabId blockId : String) :
    (setActiveBlock windowId tabId blockId).OfGraph := by
  refine .nested <| .bind (ofGraph_mustGet _ _) fun window =>
    .bind (ofGraph_mustGet _ _) fun tab => ?_
  dsimp only
  split
  · exact .bind (ofGraph_ask trivial) fun _ => ofGraph_pure _
  · exact ofGraph_throw _

theorem ofGraph_getClient : getClient.OfGraph := by
  refine .bind (ofGraph_ask trivial) fun clients => ?_
  cases clients with
  | nil => exact ofGraph_throw _
  | cons client rest => exact ofGraph_pure client

theorem ofGraph_getWindowView (windowId : String) : (getWindowView windowId).OfGraph :=
  .bind (ofGraph_mustGet _ _) fun _ => ofGraph_pure _

end Graph

open Transaction ScopedStore.Graph in
/-- **Every request is answered with the operations that requests use.** -/
theorem Request.ofGraph (request : Request) : request.answer.OfGraph := by
  cases request with
  | createWorkspace name => exact .bind (ofGraph_createWorkspace name) fun _ => ofGraph_pure _
  | createTab workspaceId name =>
      exact .bind (ofGraph_createTab workspaceId name) fun _ => ofGraph_pure _
  | createBlock tabId definition runtimeOptions =>
      exact .bind (ofGraph_createBlock tabId definition runtimeOptions) fun _ => ofGraph_pure _
  | deleteBlock tabId blockId =>
      exact .bind (ofGraph_deleteBlock tabId blockId) fun _ => ofGraph_pure _
  | setActiveTab windowId tabId =>
      exact .bind (ofGraph_setActiveTab windowId tabId) fun _ => ofGraph_pure _
  | setActiveBlock windowId tabId blockId =>
      exact .bind (ofGraph_setActiveBlock windowId tabId blockId) fun _ => ofGraph_pure _
  | getClient => exact .bind ofGraph_getClient fun _ => ofGraph_pure _
  | getWindowView windowId => exact .bind (ofGraph_getWindowView windowId) fun _ => ofGraph_pure _
  | getMainView =>
      exact .bind (.bind ofGraph_getClient fun _ => ofGraph_getWindowView _) fun _ => ofGraph_pure _

/-- **Whatever is asked of the graph is about objects alone.** -/
theorem Request.avoids {topics : List Topic} (others : .objects ∉ topics) (request : Request) :
    request.answer.Avoids topics :=
  Work.OfGraph.avoids others request.ofGraph

end ScopedStore
