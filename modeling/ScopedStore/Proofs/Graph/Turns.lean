import ScopedStore.Domain.Service
import ScopedStore.Proofs.Graph.Objects

/-!
# What a request does to the objects

A request that succeeds does one of a few things, and this module settles once which: what it has
found, what it answers, and what the objects are afterwards (`Objects.Turn`, `Request.turn`). A
request that fails leaves the content as it was, for all that it writes stands in a scope of its own
(`Request.allOrNothing`). So what is to be known of any number of requests is proved turn by turn,
and no proof opens the work of a request again.

The first data is added as a whole, or there was a client before (`Objects.Start`). Its four
objects take the ids that are drawn next.
-/

set_option autoImplicit false

namespace ScopedStore

/-! ## Objects as they are stored -/

/-- A workspace after it was stored for the first time. -/
def Workspace.stored (id name : String) : Workspace := { Workspace.new id name with version := 1 }

@[simp] theorem Workspace.id_stored (id name : String) : (stored id name).id = id := rfl

@[simp] theorem Workspace.name_stored (id name : String) : (stored id name).name = name := rfl

@[simp] theorem Workspace.tabIds_stored (id name : String) : (stored id name).tabIds = [] := rfl

/-- A tab after it was stored for the first time. -/
def Tab.stored (id name : String) : Tab := { Tab.new id name with version := 1 }

@[simp] theorem Tab.id_stored (id name : String) : (stored id name).id = id := rfl

@[simp] theorem Tab.name_stored (id name : String) : (stored id name).name = name := rfl

@[simp] theorem Tab.blockIds_stored (id name : String) : (stored id name).blockIds = [] := rfl

/-- A block after it was stored for the first time. -/
def Block.stored (id : String) (definition : BlockDefinition) (options : Option RuntimeOptions) :
    Block :=
  { Block.new id definition options with version := 1 }

@[simp] theorem Block.id_stored (id : String) (definition : BlockDefinition)
    (options : Option RuntimeOptions) : (stored id definition options).id = id := rfl

/-- A workspace after it was stored with one more tab. -/
def Workspace.listing (workspace : Workspace) (tabId : String) : Workspace :=
  { workspace with version := workspace.version + 1, tabIds := workspace.tabIds ++ [tabId] }

@[simp] theorem Workspace.id_listing (workspace : Workspace) (tabId : String) :
    (workspace.listing tabId).id = workspace.id := rfl

@[simp] theorem Workspace.name_listing (workspace : Workspace) (tabId : String) :
    (workspace.listing tabId).name = workspace.name := rfl

@[simp] theorem Workspace.tabIds_listing (workspace : Workspace) (tabId : String) :
    (workspace.listing tabId).tabIds = workspace.tabIds ++ [tabId] := rfl

/-- A tab after it was stored with one more block. -/
def Tab.listing (tab : Tab) (blockId : String) : Tab :=
  { tab with version := tab.version + 1, blockIds := tab.blockIds ++ [blockId] }

@[simp] theorem Tab.id_listing (tab : Tab) (blockId : String) : (tab.listing blockId).id = tab.id :=
  rfl

@[simp] theorem Tab.name_listing (tab : Tab) (blockId : String) :
    (tab.listing blockId).name = tab.name := rfl

@[simp] theorem Tab.blockIds_listing (tab : Tab) (blockId : String) :
    (tab.listing blockId).blockIds = tab.blockIds ++ [blockId] := rfl

/-- A tab after it was stored without a block. -/
def Tab.unlisting (tab : Tab) (blockId : String) : Tab :=
  { tab with version := tab.version + 1, blockIds := tab.blockIds.filter (· != blockId) }

@[simp] theorem Tab.id_unlisting (tab : Tab) (blockId : String) :
    (tab.unlisting blockId).id = tab.id := rfl

@[simp] theorem Tab.name_unlisting (tab : Tab) (blockId : String) :
    (tab.unlisting blockId).name = tab.name := rfl

@[simp] theorem Tab.blockIds_unlisting (tab : Tab) (blockId : String) :
    (tab.unlisting blockId).blockIds = tab.blockIds.filter (· != blockId) := rfl

/-- A window after it was stored with another active tab. -/
def Window.showing (window : Window) (tabId : String) : Window :=
  { window with version := window.version + 1, activeTabId := tabId }

@[simp] theorem Window.id_showing (window : Window) (tabId : String) :
    (window.showing tabId).id = window.id := rfl

@[simp] theorem Window.activeTabId_showing (window : Window) (tabId : String) :
    (window.showing tabId).activeTabId = tabId := rfl

@[simp] theorem Window.activeBlocks_showing (window : Window) (tabId : String) :
    (window.showing tabId).activeBlocks = window.activeBlocks := rfl

/-- A window after it was stored with another active block of a tab. -/
def Window.focusing (window : Window) (tabId blockId : String) : Window :=
  { window with
    version := window.version + 1
    activeBlocks := window.activeBlocks.insert tabId blockId }

@[simp] theorem Window.id_focusing (window : Window) (tabId blockId : String) :
    (window.focusing tabId blockId).id = window.id := rfl

@[simp] theorem Window.activeTabId_focusing (window : Window) (tabId blockId : String) :
    (window.focusing tabId blockId).activeTabId = window.activeTabId := rfl

@[simp] theorem Window.activeBlocks_focusing (window : Window) (tabId blockId : String) :
    (window.focusing tabId blockId).activeBlocks = window.activeBlocks.insert tabId blockId := rfl

namespace Objects

/-- **What a request finds, what it answers, and what the objects are afterwards.** -/
inductive Turn (objects : Objects) : Request → Response → Objects → Prop
  | createWorkspace {name id : String} (free : objects ⟨.workspace, id⟩ = none) :
      Turn objects (.createWorkspace name) (.record ⟨.workspace, Workspace.stored id name⟩)
        (objects.put ⟨.workspace, Workspace.stored id name⟩)
  | createTab {workspace : Workspace} {name id : String}
      (found : objects ⟨.workspace, workspace.id⟩ = some ⟨.workspace, workspace⟩)
      (free : objects ⟨.tab, id⟩ = none) :
      Turn objects (.createTab workspace.id name) (.record ⟨.tab, Tab.stored id name⟩)
        ((objects.put ⟨.tab, Tab.stored id name⟩).put ⟨.workspace, workspace.listing id⟩)
  | createBlock {tab : Tab} {definition : BlockDefinition} {options : Option RuntimeOptions}
      {id : String} (found : objects ⟨.tab, tab.id⟩ = some ⟨.tab, tab⟩)
      (free : objects ⟨.block, id⟩ = none) :
      Turn objects (.createBlock tab.id definition options)
        (.record ⟨.block, Block.stored id definition options⟩)
        ((objects.put ⟨.block, Block.stored id definition options⟩).put ⟨.tab, tab.listing id⟩)
  | deleteBlock {tab : Tab} {blockId : String}
      (found : objects ⟨.tab, tab.id⟩ = some ⟨.tab, tab⟩) (listed : blockId ∈ tab.blockIds) :
      Turn objects (.deleteBlock tab.id blockId) .done
        ((objects.put ⟨.tab, tab.unlisting blockId⟩).erase ⟨.block, blockId⟩)
  | setActiveTab {window : Window} {tab : Tab}
      (found : objects ⟨.window, window.id⟩ = some ⟨.window, window⟩)
      (shown : objects ⟨.tab, tab.id⟩ = some ⟨.tab, tab⟩) :
      Turn objects (.setActiveTab window.id tab.id) .done
        (objects.put ⟨.window, window.showing tab.id⟩)
  | setActiveBlock {window : Window} {tab : Tab} {blockId : String}
      (found : objects ⟨.window, window.id⟩ = some ⟨.window, window⟩)
      (shown : objects ⟨.tab, tab.id⟩ = some ⟨.tab, tab⟩) (listed : blockId ∈ tab.blockIds) :
      Turn objects (.setActiveBlock window.id tab.id blockId) .done
        (objects.put ⟨.window, window.focusing tab.id blockId⟩)
  | getClient {client : Client}
      (found : objects ⟨.client, client.id⟩ = some ⟨.client, client⟩) :
      Turn objects .getClient (.record ⟨.client, client⟩) objects
  | getWindowView {window : Window}
      (found : objects ⟨.window, window.id⟩ = some ⟨.window, window⟩) :
      Turn objects (.getWindowView window.id) (.view ⟨window.id, window.activeTabId⟩) objects
  | getMainView {client : Client} {window : Window}
      (found : objects ⟨.client, client.id⟩ = some ⟨.client, client⟩)
      (main : window.id = client.mainWindowId)
      (shown : objects ⟨.window, window.id⟩ = some ⟨.window, window⟩) :
      Turn objects .getMainView (.view ⟨window.id, window.activeTabId⟩) objects

end Objects

/-! ## The first data -/

/-- The id that is drawn behind that many others. -/
def IdSource.behind (ids : IdSource) (others : Nat) : String := ids.upcoming (ids.drawn + others)

/-- The first tab. -/
def Tab.first (ids : IdSource) : Tab := .stored (ids.behind 0) Graph.firstTabName

@[simp] theorem Tab.name_first (ids : IdSource) : (first ids).name = Graph.firstTabName := rfl

@[simp] theorem Tab.blockIds_first (ids : IdSource) : (first ids).blockIds = [] := rfl

/-- The first workspace, which lists the first tab. -/
def Workspace.first (ids : IdSource) : Workspace :=
  { Workspace.stored (ids.behind 1) Graph.firstWorkspaceName with tabIds := [(Tab.first ids).id] }

@[simp] theorem Workspace.name_first (ids : IdSource) :
    (first ids).name = Graph.firstWorkspaceName := rfl

@[simp] theorem Workspace.tabIds_first (ids : IdSource) :
    (first ids).tabIds = [(Tab.first ids).id] := rfl

/-- The first window, which shows the first tab. -/
def Window.first (ids : IdSource) : Window :=
  { Window.new (ids.behind 2) (Workspace.first ids).id (Tab.first ids).id
      Graph.firstWindowPosition Graph.firstWindowSize with version := 1 }

@[simp] theorem Window.activeTabId_first (ids : IdSource) :
    (first ids).activeTabId = (Tab.first ids).id := rfl

@[simp] theorem Window.activeBlocks_first (ids : IdSource) : (first ids).activeBlocks = ∅ := rfl

/-- The first client, whose main window is the first one. -/
def Client.first (ids : IdSource) : Client :=
  { Client.new (ids.behind 3) (Window.first ids).id with version := 1 }

@[simp] theorem Client.mainWindowId_first (ids : IdSource) :
    (first ids).mainWindowId = (Window.first ids).id := rfl

namespace Objects

/-- The objects with the first data. -/
def withFirst (objects : Objects) (ids : IdSource) : Objects :=
  (((objects.put ⟨.tab, Tab.first ids⟩).put ⟨.workspace, Workspace.first ids⟩).put
    ⟨.window, Window.first ids⟩).put ⟨.client, Client.first ids⟩

section First

variable (objects : Objects) (ids : IdSource) (id : String)

@[simp] theorem find_workspace_withFirst : (objects.withFirst ids).find .workspace id =
    if id = (Workspace.first ids).id then some (Workspace.first ids)
    else objects.find .workspace id := by
  simp [withFirst, Kind.id]

@[simp] theorem find_tab_withFirst : (objects.withFirst ids).find .tab id =
    if id = (Tab.first ids).id then some (Tab.first ids) else objects.find .tab id := by
  simp [withFirst, Kind.id]
  rfl

@[simp] theorem find_window_withFirst : (objects.withFirst ids).find .window id =
    if id = (Window.first ids).id then some (Window.first ids) else objects.find .window id := by
  simp [withFirst, Kind.id]

@[simp] theorem find_client_withFirst : (objects.withFirst ids).find .client id =
    if id = (Client.first ids).id then some (Client.first ids) else objects.find .client id := by
  simp [withFirst, Kind.id]

@[simp] theorem find_block_withFirst :
    (objects.withFirst ids).find .block id = objects.find .block id := by
  simp [withFirst]

end First

/-- **The first data is added where there is no client.** -/
inductive Start (objects : Objects) (ids : IdSource) : Option Client → Objects → Prop
  | skipped {client : Client}
      (found : objects ⟨.client, client.id⟩ = some ⟨.client, client⟩) :
      Start objects ids none objects
  | added (noClient : ∀ id, objects ⟨.client, id⟩ = none)
      (freeTab : objects ⟨.tab, (Tab.first ids).id⟩ = none)
      (freeWorkspace : objects ⟨.workspace, (Workspace.first ids).id⟩ = none)
      (freeWindow : objects ⟨.window, (Window.first ids).id⟩ = none) :
      Start objects ids (some (Client.first ids)) (objects.withFirst ids)

end Objects

/-! ## Requests that succeed -/

/-- The work leads from the objects to others, with which it is in the given relation. -/
def Database.Leads (before : Database) (objects : Objects) (result : Objects → Prop)
    (after : Database) : Prop :=
  ∃ later, result later ∧ before.Passes objects after later

namespace Graph

open Transaction

variable {handle after : Handle} {objects : Objects}

/-- Work in a scope of its own leads where the work inside leads. -/
theorem leads_nested {α : Type} {work : Transaction α} {value : α} {result : Objects → Prop}
    (lockstep : handle.Lockstep) (holds : handle.content.Holds objects)
    (given : Gives (nested work) handle value after)
    (inside : ∀ first last : Handle, first.content.Holds objects → Gives work first value last →
      first.content.Leads objects result last.content) :
    handle.content.Leads objects result after.content := by
  obtain ⟨last, done, rfl⟩ := (gives_nested lockstep).1 given
  exact inside handle.openScope last holds done

theorem turn_createWorkspace {name : String} {workspace : Workspace}
    (holds : handle.content.Holds objects)
    (given : Gives (createWorkspace name) handle workspace after) :
    handle.content.Leads objects
      (objects.Turn (.createWorkspace name) (.record ⟨.workspace, workspace⟩)) after.content := by
  obtain ⟨id, _, drawn, inserted⟩ := gives_bind.1 given
  cases drawn
  have held : ({ handle with ids := handle.ids.draw.2 } : Handle).content.Holds objects := holds
  obtain ⟨rfl, free, passes, _⟩ := passes_insert held inserted
  exact ⟨_, .createWorkspace free, passes⟩

/-- **A new object is stored and listed by its owner.** -/
theorem passes_adoption (ownerKind childKind : Kind) (build : String → childKind.Body)
    (list : ownerKind.Body → childKind.Body → ownerKind.Body) {ownerId : String}
    {child : childKind.Body} (noBlock : ownerKind ≠ .block) (other : ownerKind ≠ childKind)
    (address : ∀ owner child, ownerKind.id (list owner child) = ownerKind.id owner)
    (holds : handle.content.Holds objects)
    (given : Gives (do
      let owner ← mustGet ownerKind ownerId
      let id ← draw
      let child ← Transaction.ask (.insert childKind (build id))
      let _ ← Transaction.ask (.update ownerKind (list owner child))
      return child) handle child after) :
    ∃ owner : ownerKind.Body, objects (Record.ref ⟨ownerKind, owner⟩) = some ⟨ownerKind, owner⟩ ∧
      ownerKind.id owner = ownerId ∧ ∃ id, child = childKind.withVersion (build id) 1 ∧
        objects (Record.ref ⟨childKind, child⟩) = none ∧
        handle.content.Passes objects after.content ((objects.put ⟨childKind, child⟩).put
          ⟨ownerKind, ownerKind.withVersion (list owner child) (ownerKind.version owner + 1)⟩) := by
  obtain ⟨owner, _, read, rest⟩ := gives_bind.1 given
  obtain ⟨found, named, rfl⟩ := holds_mustGet holds noBlock read
  obtain ⟨free, _, stored, _, rest⟩ := passes_new holds rfl rest
  obtain ⟨listing, _, updated, rest⟩ := gives_bind.1 rest
  obtain ⟨rfl, rfl⟩ := gives_pure.1 rest
  have held (child : childKind.Body) :
      objects.put ⟨childKind, child⟩ ⟨ownerKind, ownerKind.id (list owner child)⟩ =
        some ⟨ownerKind, owner⟩ := by
    rw [address]
    exact (Objects.put_of_ne fun same => other (congrArg Ref.kind same)).trans found
  obtain ⟨rfl, listed⟩ := passes_update stored.holds updated (held _)
  exact ⟨owner, found, named, _, rfl, free, stored.trans listed⟩

theorem turn_createTab {workspaceId name : String} {tab : Tab} (lockstep : handle.Lockstep)
    (holds : handle.content.Holds objects)
    (given : Gives (createTab workspaceId name) handle tab after) :
    handle.content.Leads objects
      (objects.Turn (.createTab workspaceId name) (.record ⟨.tab, tab⟩)) after.content := by
  refine leads_nested lockstep holds given fun first last holds done => ?_
  obtain ⟨workspace, found, rfl, id, rfl, free, passes⟩ :=
    passes_adoption .workspace .tab (Tab.new · name)
      (fun workspace tab => { workspace with tabIds := workspace.tabIds ++ [tab.id] })
      (by decide) (by decide) (fun _ _ => rfl) holds done
  exact ⟨_, .createTab found free, passes⟩

theorem turn_createBlock {tabId : String} {definition : BlockDefinition}
    {options : Option RuntimeOptions} {block : Block} (lockstep : handle.Lockstep)
    (holds : handle.content.Holds objects)
    (given : Gives (createBlock tabId definition options) handle block after) :
    handle.content.Leads objects
      (objects.Turn (.createBlock tabId definition options) (.record ⟨.block, block⟩))
      after.content := by
  refine leads_nested lockstep holds given fun first last holds done => ?_
  obtain ⟨tab, found, rfl, id, rfl, free, passes⟩ :=
    passes_adoption .tab .block (Block.new · definition options)
      (fun tab block => { tab with blockIds := tab.blockIds ++ [block.id] })
      (by decide) (by decide) (fun _ _ => rfl) holds done
  exact ⟨_, .createBlock found free, passes⟩

theorem turn_deleteBlock {tabId blockId : String} (lockstep : handle.Lockstep)
    (holds : handle.content.Holds objects)
    (given : Gives (deleteBlock tabId blockId) handle () after) :
    handle.content.Leads objects (objects.Turn (.deleteBlock tabId blockId) .done)
      after.content := by
  refine leads_nested lockstep holds given fun first last holds done => ?_
  obtain ⟨tab, _, read, rest⟩ := gives_bind.1 done
  obtain ⟨found, rfl, rfl⟩ := holds_mustGet holds (by decide) read
  dsimp only at rest
  split at rest
  · exact absurd rest not_gives_throw
  · rename_i shorter
    have listed : blockId ∈ tab.blockIds := Classical.byContradiction fun missing => by
      have others : ∀ id ∈ tab.blockIds, (id != blockId) = true := by
        intro id member
        exact bne_iff_ne.2 fun same => missing (same ▸ member)
      exact shorter (congrArg List.length (List.filter_eq_self.2 others))
    obtain ⟨listing, _, updated, rest⟩ := gives_bind.1 rest
    obtain ⟨rfl, stored⟩ := passes_update holds updated found
    obtain ⟨existed, _, deleted, rest⟩ := gives_bind.1 rest
    obtain ⟨_, rfl⟩ := gives_pure.1 rest
    exact ⟨_, .deleteBlock found listed, stored.trans (passes_delete stored.holds deleted)⟩

theorem turn_setActiveTab {windowId tabId : String} (lockstep : handle.Lockstep)
    (holds : handle.content.Holds objects)
    (given : Gives (setActiveTab windowId tabId) handle () after) :
    handle.content.Leads objects (objects.Turn (.setActiveTab windowId tabId) .done)
      after.content := by
  refine leads_nested lockstep holds given fun first last holds done => ?_
  obtain ⟨window, _, readWindow, behind⟩ := gives_bind.1 done
  obtain ⟨found, rfl, rfl⟩ := holds_mustGet holds (by decide) readWindow
  obtain ⟨tab, _, readTab, rest⟩ := gives_bind.1 behind
  obtain ⟨shown, rfl, rfl⟩ := holds_mustGet holds (by decide) readTab
  obtain ⟨_, _, updated, rest⟩ := gives_bind.1 rest
  obtain ⟨_, rfl⟩ := gives_pure.1 rest
  obtain ⟨rfl, passes⟩ := passes_update holds updated found
  exact ⟨_, .setActiveTab found shown, passes⟩

theorem turn_setActiveBlock {windowId tabId blockId : String} (lockstep : handle.Lockstep)
    (holds : handle.content.Holds objects)
    (given : Gives (setActiveBlock windowId tabId blockId) handle () after) :
    handle.content.Leads objects (objects.Turn (.setActiveBlock windowId tabId blockId) .done)
      after.content := by
  refine leads_nested lockstep holds given fun first last holds done => ?_
  obtain ⟨window, _, readWindow, behind⟩ := gives_bind.1 done
  obtain ⟨found, rfl, rfl⟩ := holds_mustGet holds (by decide) readWindow
  obtain ⟨tab, _, readTab, rest⟩ := gives_bind.1 behind
  obtain ⟨shown, rfl, rfl⟩ := holds_mustGet holds (by decide) readTab
  dsimp only at rest
  split at rest
  · rename_i listed
    obtain ⟨_, _, updated, rest⟩ := gives_bind.1 rest
    obtain ⟨_, rfl⟩ := gives_pure.1 rest
    obtain ⟨rfl, passes⟩ := passes_update holds updated found
    exact ⟨_, .setActiveBlock found shown (List.contains_iff_mem.1 listed), passes⟩
  · exact absurd rest not_gives_throw

theorem holds_getClient {client : Client} (holds : handle.content.Holds objects)
    (given : Gives getClient handle client after) :
    objects ⟨.client, client.id⟩ = some ⟨.client, client⟩ ∧ after = handle := by
  obtain ⟨clients, _, asked, rest⟩ := gives_bind.1 given
  obtain ⟨listed, same⟩ := Prod.ext_iff.1 (gives_ask.1 asked)
  cases clients with
  | nil => exact absurd rest not_gives_throw
  | cons first others =>
      obtain ⟨rfl, rfl⟩ := gives_pure.1 rest
      obtain ⟨id, read⟩ := (Handle.mem_list_iff listed first).1 List.mem_cons_self
      have found := holds.object (by decide) read
      obtain rfl : first.id = id := congrArg Ref.id (holds.address found)
      exact ⟨found, same.symm⟩

theorem holds_getWindowView {windowId : String} {view : WindowView}
    (holds : handle.content.Holds objects)
    (given : Gives (getWindowView windowId) handle view after) :
    ∃ window : Window, objects ⟨.window, window.id⟩ = some ⟨.window, window⟩ ∧
      window.id = windowId ∧ view = ⟨window.id, window.activeTabId⟩ ∧ after = handle := by
  obtain ⟨window, _, read, rest⟩ := gives_bind.1 given
  obtain ⟨rfl, rfl⟩ := gives_pure.1 rest
  obtain ⟨found, named, rfl⟩ := holds_mustGet holds (by decide) read
  exact ⟨window, found, named, rfl, rfl⟩

end Graph

open Transaction ScopedStore.Graph in
/-- **Every request that succeeds is a turn.** -/
theorem Request.turn (request : Request) {handle after : Handle} {response : Response}
    {objects : Objects} (lockstep : handle.Lockstep) (holds : handle.content.Holds objects)
    (given : Gives request.answer handle response after) :
    handle.content.Leads objects (objects.Turn request response) after.content := by
  cases request with
  | createWorkspace name =>
      obtain ⟨_, _, asked, rest⟩ := gives_bind.1 given
      obtain ⟨rfl, rfl⟩ := gives_pure.1 rest
      exact turn_createWorkspace holds asked
  | createTab workspaceId name =>
      obtain ⟨_, _, asked, rest⟩ := gives_bind.1 given
      obtain ⟨rfl, rfl⟩ := gives_pure.1 rest
      exact turn_createTab lockstep holds asked
  | createBlock tabId definition options =>
      obtain ⟨_, _, asked, rest⟩ := gives_bind.1 given
      obtain ⟨rfl, rfl⟩ := gives_pure.1 rest
      exact turn_createBlock lockstep holds asked
  | deleteBlock tabId blockId =>
      obtain ⟨_, _, asked, rest⟩ := gives_bind.1 given
      obtain ⟨rfl, rfl⟩ := gives_pure.1 rest
      exact turn_deleteBlock lockstep holds asked
  | setActiveTab windowId tabId =>
      obtain ⟨_, _, asked, rest⟩ := gives_bind.1 given
      obtain ⟨rfl, rfl⟩ := gives_pure.1 rest
      exact turn_setActiveTab lockstep holds asked
  | setActiveBlock windowId tabId blockId =>
      obtain ⟨_, _, asked, rest⟩ := gives_bind.1 given
      obtain ⟨rfl, rfl⟩ := gives_pure.1 rest
      exact turn_setActiveBlock lockstep holds asked
  | getClient =>
      obtain ⟨client, _, asked, rest⟩ := gives_bind.1 given
      obtain ⟨rfl, rfl⟩ := gives_pure.1 rest
      obtain ⟨found, rfl⟩ := holds_getClient holds asked
      exact ⟨objects, .getClient found, .refl holds⟩
  | getWindowView windowId =>
      obtain ⟨_, _, asked, rest⟩ := gives_bind.1 given
      obtain ⟨rfl, rfl⟩ := gives_pure.1 rest
      obtain ⟨window, found, rfl, rfl, rfl⟩ := holds_getWindowView holds asked
      exact ⟨objects, .getWindowView found, .refl holds⟩
  | getMainView =>
      obtain ⟨_, _, asked, rest⟩ := gives_bind.1 given
      obtain ⟨rfl, rfl⟩ := gives_pure.1 rest
      obtain ⟨client, _, first, rest⟩ := gives_bind.1 asked
      obtain ⟨found, rfl⟩ := holds_getClient holds first
      obtain ⟨window, shown, main, rfl, rfl⟩ := holds_getWindowView holds rest
      exact ⟨objects, .getMainView found main shown, .refl holds⟩

open Transaction in
/-- **The first data is a start.** Its steps have no scope of their own, so they are undone as a
whole transaction only. -/
theorem Graph.start_seed {handle after : Handle} {objects : Objects} {value : Option Client}
    (holds : handle.content.Holds objects) (given : Gives seed handle value after) :
    handle.content.Leads objects (objects.Start handle.ids value) after.content := by
  obtain ⟨clients, _, counted, rest⟩ := gives_bind.1 given
  obtain ⟨answer, same⟩ := Prod.ext_iff.1 (gives_ask.1 counted)
  obtain ⟨noClient, someClient⟩ := holds.of_count answer
  obtain rfl : handle = _ := same
  dsimp only at rest
  split at rest
  · rename_i some
    obtain ⟨rfl, rfl⟩ := gives_pure.1 rest
    obtain ⟨id, present⟩ := someClient some
    obtain ⟨client, found, rfl⟩ := holds.exists_body present
    exact ⟨objects, .skipped found, .refl holds⟩
  · rename_i none
    have noClient := noClient (Nat.eq_zero_of_not_pos none)
    obtain ⟨freeTab, _, tab, ids, rest⟩ := passes_new holds rfl rest
    obtain ⟨freeWorkspace, _, workspace, ids, rest⟩ := passes_new tab.holds ids rest
    obtain ⟨freeWindow, _, window, ids, rest⟩ := passes_new workspace.holds ids rest
    obtain ⟨_, _, client, _, rest⟩ := passes_new window.holds ids rest
    obtain ⟨rfl, rfl⟩ := gives_pure.1 rest
    have noTab : Kind.workspace ≠ Kind.tab := by decide
    have alsoNoTab : Kind.window ≠ Kind.tab := by decide
    have noWorkspace : Kind.window ≠ Kind.workspace := by decide
    refine ⟨objects.withFirst handle.ids, .added noClient freeTab ?_ ?_,
      ((tab.trans workspace).trans window).trans client⟩
    · exact (Objects.put_of_kind noTab _).symm.trans freeWorkspace
    · exact ((Objects.put_of_kind noWorkspace _).trans (Objects.put_of_kind alsoNoTab _)).symm.trans
        freeWindow

/-! ## Requests that fail -/

open Transaction ScopedStore.Graph in
/-- **A request that fails leaves the content as it was.** -/
theorem Request.allOrNothing (request : Request) : request.answer.AllOrNothing := by
  cases request with
  | createWorkspace name => exact (AllOrNothing.afterDraw fun _ => .insert .workspace _).map _
  | createTab workspaceId name => exact (AllOrNothing.nested _).map _
  | createBlock tabId definition options => exact (AllOrNothing.nested _).map _
  | deleteBlock tabId blockId => exact (AllOrNothing.nested _).map fun _ => Response.done
  | setActiveTab windowId tabId => exact (AllOrNothing.nested _).map fun _ => Response.done
  | setActiveBlock windowId tabId blockId => exact (AllOrNothing.nested _).map fun _ => Response.done
  | getClient => exact reads_getClient.allOrNothing.map _
  | getWindowView windowId => exact (reads_getWindowView windowId).allOrNothing.map _
  | getMainView => exact reads_getMainView.allOrNothing.map _

end ScopedStore
