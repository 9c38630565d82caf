import ScopedStore.Domain.Graph
import ScopedStore.Store

/-!
# The service

Everything that can be asked of the graph is data: what a request asks for, and the work that
answers it. Statements about any sequence of calls are statements about lists of requests.

The service answers requests for its callers. Every request is one transaction: when it fails the
store is as it was and nobody is told anything, and when it succeeds its changes are delivered.

The first data is the exception: it is written without a record of changes, so nobody is told
about it.
-/

set_option autoImplicit false

namespace ScopedStore

/-- Something that is asked of the graph. The main view is what the main window of the client
shows. -/
inductive Request
  | createWorkspace (name : String)
  | createTab (workspaceId name : String)
  | createBlock (tabId : String) (definition : BlockDefinition)
      (runtimeOptions : Option RuntimeOptions)
  | deleteBlock (tabId blockId : String)
  | setActiveTab (windowId tabId : String)
  | setActiveBlock (windowId tabId blockId : String)
  | getClient
  | getWindowView (windowId : String)
  | getMainView

/-- What a request is answered with: that it was done, an object, or what a window shows. -/
inductive Response
  | done
  | record (record : Record)
  | view (view : WindowView)

/-- The work that answers a request. -/
def Request.answer : Request → Transaction Response
  | createWorkspace name => do
      return .record ⟨.workspace, ← Graph.createWorkspace name⟩
  | createTab workspaceId name => do
      return .record ⟨.tab, ← Graph.createTab workspaceId name⟩
  | createBlock tabId definition runtimeOptions => do
      return .record ⟨.block, ← Graph.createBlock tabId definition runtimeOptions⟩
  | deleteBlock tabId blockId => do
      Graph.deleteBlock tabId blockId
      return .done
  | setActiveTab windowId tabId => do
      Graph.setActiveTab windowId tabId
      return .done
  | setActiveBlock windowId tabId blockId => do
      Graph.setActiveBlock windowId tabId blockId
      return .done
  | getClient => do return .record ⟨.client, ← Graph.getClient⟩
  | getWindowView windowId => do return .view (← Graph.getWindowView windowId)
  | getMainView => do return .view (← Graph.getMainView)

namespace Service

/-- Answers a request. -/
def handle (store : Store) (request : Request) : Except StoreError Response × Store :=
  store.transactValue request.answer

/-- Sets up the first data; tells whether there was anything to do. -/
def ensureInitialData (store : Store) : Except Refusal Bool × Store :=
  match store.transactUntracked Graph.seed with
  | (.error refusal, store) => (.error refusal, store)
  | (.ok (some client), store) => (.ok true, store.note (.seeded client.id))
  | (.ok none, store) => (.ok false, store.note .seedingSkipped)

end Service

end ScopedStore
