import ScopedStore.Store.Work

/-!
# Windows, workspaces, tabs and blocks

The objects of the store form a graph: the client names its main window, a window names a
workspace and an active tab, a workspace lists its tabs and a tab lists its blocks. The
operations of this module keep the graph whole. Each of them that writes more than one object
does so in a scope of its own, so it has all of its effect or none, and it stores a new object
before it lists it.

Deleting a block does not look for windows in which it was active: such a window keeps the id of
a block that is gone, and its readers put up with that.
-/

set_option autoImplicit false

namespace ScopedStore

namespace Transaction

/-- An object that has to exist. -/
def mustGet (kind : Kind) (id : String) : Transaction kind.Body := do
  match ← ask (.get kind id) with
  | some body => return body
  | none => throw (.notFound ⟨kind, id⟩)

/-- A new id. -/
def draw : Transaction String := askPlain .draw

end Transaction

namespace Graph

open Transaction

/-- Adds an empty workspace. -/
def createWorkspace (name : String) : Transaction Workspace := do
  let workspace := Workspace.new (← draw) name
  ask (.insert .workspace workspace)

/-- Adds an empty tab at the end of a workspace. -/
def createTab (workspaceId name : String) : Transaction Tab :=
  nested do
    let workspace : Workspace ← mustGet .workspace workspaceId
    let new := Tab.new (← draw) name
    let tab : Tab ← ask (.insert .tab new)
    let _ ← ask (.update .workspace { workspace with tabIds := workspace.tabIds ++ [tab.id] })
    return tab

/-- Adds a block at the end of a tab. -/
def createBlock (tabId : String) (definition : BlockDefinition)
    (runtimeOptions : Option RuntimeOptions) : Transaction Block :=
  nested do
    let tab : Tab ← mustGet .tab tabId
    let new := Block.new (← draw) definition runtimeOptions
    let block : Block ← ask (.insert .block new)
    let _ ← ask (.update .tab { tab with blockIds := tab.blockIds ++ [block.id] })
    return block

/-- Takes a block out of a tab and deletes it. -/
def deleteBlock (tabId blockId : String) : Transaction Unit :=
  nested do
    let tab : Tab ← mustGet .tab tabId
    let remaining := tab.blockIds.filter (· != blockId)
    if remaining.length = tab.blockIds.length then throw (.notFound ⟨.block, blockId⟩)
    let _ ← ask (.update .tab { tab with blockIds := remaining })
    let _ ← ask (.delete .block blockId)
    return ()

/-- Makes a tab the active one of a window. -/
def setActiveTab (windowId tabId : String) : Transaction Unit :=
  nested do
    let window : Window ← mustGet .window windowId
    let tab : Tab ← mustGet .tab tabId
    let _ ← ask (.update .window { window with activeTabId := tab.id })
    return ()

/-- Makes a block the active one of its tab in a window. -/
def setActiveBlock (windowId tabId blockId : String) : Transaction Unit :=
  nested do
    let window : Window ← mustGet .window windowId
    let tab : Tab ← mustGet .tab tabId
    unless tab.blockIds.contains blockId do throw (.notFound ⟨.block, blockId⟩)
    let activeBlocks := window.activeBlocks.insert tab.id blockId
    let _ ← ask (.update .window { window with activeBlocks })
    return ()

/-- The client; of several the one with the lowest id. -/
def getClient : Transaction Client := do
  let clients : List Client ← ask (.list .client)
  match clients with
  | client :: _ => return client
  | [] => throw (.notFound ⟨.client, ""⟩)

/-- What a window shows. -/
def getWindowView (windowId : String) : Transaction WindowView := do
  let window : Window ← mustGet .window windowId
  return ⟨window.id, window.activeTabId⟩

/-- What the main window of the client shows. -/
def getMainView : Transaction WindowView := do
  let client ← getClient
  getWindowView client.mainWindowId

/-! ## The first data -/

/-- The name of the first workspace. -/
def firstWorkspaceName : String := "default"

/-- The name of the first tab. -/
def firstTabName : String := "Tab-1"

/-- The position of the first window. -/
def firstWindowPosition : Point := ⟨100, 100⟩

/-- The size of the first window. -/
def firstWindowSize : WindowSize := ⟨800, 600⟩

/-- Adds a client with a window, a workspace and a tab, unless there is a client; gives the client
that was added. -/
def seed : Transaction (Option Client) := do
  let clients ← ask (.count .client)
  if clients > 0 then return none
  let newTab := Tab.new (← draw) firstTabName
  let tab : Tab ← ask (.insert .tab newTab)
  let newWorkspace := { Workspace.new (← draw) firstWorkspaceName with tabIds := [tab.id] }
  let workspace : Workspace ← ask (.insert .workspace newWorkspace)
  let newWindow := Window.new (← draw) workspace.id tab.id firstWindowPosition firstWindowSize
  let window : Window ← ask (.insert .window newWindow)
  let newClient := Client.new (← draw) window.id
  let client : Client ← ask (.insert .client newClient)
  return some client

end Graph

end ScopedStore
