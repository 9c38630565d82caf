import ScopedStore.Proofs.Graph.Turns

/-!
# What a history says about the graph

The calls of the service, each with its answer, are the history of a store. A history alone says
which tabs a workspace has, which blocks a tab has, what each block is and what every window shows:
the calls that succeeded say it, and the others say nothing (`History.tabs`, `History.blocks` and
the like). No object is needed for that, so a history is what the objects of the store can be
compared with (`Objects.Follows`).

A call changes what the history says in the same way as it changes the objects (`Exchange.Makes`).
So objects that follow a history follow it after every turn (`Objects.Turn.makes`), and what the
call answers fits the history (`Objects.Turn.fits`).
-/

set_option autoImplicit false

namespace ScopedStore

/-- A call of the service, with its answer. The first data was asked for while some ids were to be
drawn next. -/
inductive Exchange
  | asked (request : Request) (answer : Except StoreError Response)
  | prepared (answer : Except Refusal Bool) (ids : IdSource)

/-- The calls of the service, in order. -/
abbrev History : Type := List Exchange

/-! ## What a call says -/

namespace Exchange

/-- The name under which the workspace was created. -/
def workspaceName (id : String) : Exchange → Option String
  | asked (.createWorkspace name) (.ok (.record record)) =>
      if id = record.id then some name else none
  | prepared (.ok true) ids =>
      if id = (Workspace.first ids).id then some Graph.firstWorkspaceName else none
  | _ => none

/-- The tab that was put behind the others of the workspace. -/
def newTab (workspaceId : String) : Exchange → Option String
  | asked (.createTab ownerId _) (.ok (.record record)) =>
      if workspaceId = ownerId then some record.id else none
  | prepared (.ok true) ids =>
      if workspaceId = (Workspace.first ids).id then some (Tab.first ids).id else none
  | _ => none

/-- The name under which the tab was created. -/
def tabName (id : String) : Exchange → Option String
  | asked (.createTab _ name) (.ok (.record record)) => if id = record.id then some name else none
  | prepared (.ok true) ids =>
      if id = (Tab.first ids).id then some Graph.firstTabName else none
  | _ => none

/-- The block that was put behind the others of the tab. -/
def newBlock (tabId : String) : Exchange → Option String
  | asked (.createBlock ownerId _ _) (.ok (.record record)) =>
      if tabId = ownerId then some record.id else none
  | _ => none

/-- The block that was deleted through the tab. -/
def goneBlock (tabId : String) : Exchange → Option String
  | asked (.deleteBlock ownerId blockId) (.ok _) => if tabId = ownerId then some blockId else none
  | _ => none

/-- The blocks of the tab without the one that was deleted through it. -/
def remaining (tabId : String) (exchange : Exchange) (blockIds : List String) : List String :=
  match exchange.goneBlock tabId with
  | some blockId => blockIds.filter (· != blockId)
  | none => blockIds

/-- The block that was created with the id, or that it was deleted. -/
def block (id : String) : Exchange → Option (Option Block)
  | asked (.createBlock _ _ _) (.ok (.record record)) =>
      if id = record.id then some (record.as? .block) else none
  | asked (.deleteBlock _ blockId) (.ok _) => if id = blockId then some none else none
  | _ => none

/-- The tab that was made the active one of the window. -/
def activeTab (windowId : String) : Exchange → Option String
  | asked (.setActiveTab id tabId) (.ok _) => if windowId = id then some tabId else none
  | prepared (.ok true) ids =>
      if windowId = (Window.first ids).id then some (Tab.first ids).id else none
  | _ => none

/-- The block that was made the active one of the tab in the window. -/
def activeBlock (windowId tabId : String) : Exchange → Option String
  | asked (.setActiveBlock id ownerId blockId) (.ok _) =>
      if windowId = id ∧ tabId = ownerId then some blockId else none
  | _ => none

/-- The main window of the client that was added. -/
def mainWindow : Exchange → Option String
  | prepared (.ok true) ids => some (Window.first ids).id
  | _ => none

end Exchange

/-! ## What a history says -/

namespace History

/-- What was said last. -/
def lastly {α : Type} (history : History) (news : Exchange → Option α) : Option α :=
  (history.filterMap news).getLast?

/-- The name of the workspace, if there is one. -/
def workspaceName (history : History) (id : String) : Option String :=
  history.lastly (Exchange.workspaceName id)

/-- **The tabs of the workspace**, in the order in which they were created. -/
def tabs (history : History) (workspaceId : String) : List String :=
  history.filterMap (Exchange.newTab workspaceId)

/-- The name of the tab, if there is one. -/
def tabName (history : History) (id : String) : Option String :=
  history.lastly (Exchange.tabName id)

/-- The block was not deleted through the tab. -/
def spares (tabId : String) (history : History) (id : String) : Bool :=
  history.all fun exchange => exchange.goneBlock tabId != some id

/-- **The blocks of the tab**, in the order in which they were created, without those that were
deleted through it since. -/
def blocks (tabId : String) : History → List String
  | [] => []
  | exchange :: since =>
      ((exchange.newBlock tabId).filter (spares tabId since)).toList ++ blocks tabId since

/-- **The block as it was created**, if it was not deleted since. -/
def block (history : History) (id : String) : Option Block :=
  (history.lastly (Exchange.block id)).join

/-- The active tab of the window, if there is one. -/
def activeTab (history : History) (windowId : String) : Option String :=
  history.lastly (Exchange.activeTab windowId)

/-- The active block of the tab in the window, if one was ever set. -/
def activeBlock (history : History) (windowId tabId : String) : Option String :=
  history.lastly (Exchange.activeBlock windowId tabId)

/-- The main window, if there is a client. -/
def mainWindow (history : History) : Option String := history.lastly Exchange.mainWindow

theorem lastly_concat {α : Type} (history : History) (exchange : Exchange)
    (news : Exchange → Option α) :
    (history ++ [exchange]).lastly news = (news exchange).or (history.lastly news) := by
  rw [lastly, List.filterMap_append, List.getLast?_append]
  cases said : news exchange with
  | none => simp [said, lastly]
  | some value => simp [said]

theorem tabs_concat (history : History) (exchange : Exchange) (workspaceId : String) :
    (history ++ [exchange]).tabs workspaceId =
      history.tabs workspaceId ++ (exchange.newTab workspaceId).toList := by
  rw [tabs, List.filterMap_append]
  cases said : exchange.newTab workspaceId with
  | none => simp [said, tabs]
  | some id => simp [said, tabs]

theorem remaining_eq (exchange : Exchange) (tabId : String) (blockIds : List String) :
    exchange.remaining tabId blockIds =
      blockIds.filter fun id => exchange.goneBlock tabId != some id := by
  rw [Exchange.remaining]
  cases exchange.goneBlock tabId with
  | none => exact (List.filter_eq_self.2 fun _ _ => rfl).symm
  | some gone =>
      refine List.filter_congr fun id _ => ?_
      rw [bne_comm, Bool.eq_iff_iff, bne_iff_ne, bne_iff_ne, ne_eq, ne_eq, Option.some_inj]

theorem blocks_concat (history : History) (exchange : Exchange) (tabId : String) :
    blocks tabId (history ++ [exchange]) =
      exchange.remaining tabId (blocks tabId history) ++ (exchange.newBlock tabId).toList := by
  rw [remaining_eq]
  induction history with
  | nil =>
      cases said : exchange.newBlock tabId with
      | none => simp [blocks, said]
      | some id => simp [blocks, said, spares]
  | cons first since ih =>
      rw [List.cons_append, blocks, ih, blocks, List.filter_append, List.append_assoc]
      refine congrArg (· ++ _) ?_
      cases first.newBlock tabId with
      | none => rfl
      | some id =>
          have spared : spares tabId (since ++ [exchange]) id =
              (spares tabId since id && exchange.goneBlock tabId != some id) := by
            simp [spares]
          rw [Option.filter_some, Option.filter_some, spared]
          cases spares tabId since id with
          | false => rfl
          | true => cases gone : exchange.goneBlock tabId != some id <;> simp [gone]

end History

/-! ## Objects and what is said of them -/

namespace Objects

/-- The name of the workspace, if there is one. -/
def workspaceName (objects : Objects) (id : String) : Option String :=
  (objects.find .workspace id).map Workspace.name

/-- The tabs of the workspace. -/
def tabs (objects : Objects) (workspaceId : String) : List String :=
  ((objects.find .workspace workspaceId).map Workspace.tabIds).getD []

/-- The name of the tab, if there is one. -/
def tabName (objects : Objects) (id : String) : Option String :=
  (objects.find .tab id).map Tab.name

/-- The blocks of the tab. -/
def blocks (objects : Objects) (tabId : String) : List String :=
  ((objects.find .tab tabId).map Tab.blockIds).getD []

/-- The active tab of the window, if there is one. -/
def activeTab (objects : Objects) (windowId : String) : Option String :=
  (objects.find .window windowId).map Window.activeTabId

/-- The active block of the tab in the window, if one was ever set. -/
def activeBlock (objects : Objects) (windowId tabId : String) : Option String :=
  (objects.find .window windowId).bind fun window => (Window.activeBlocks window).get? tabId

/-- Some client has the main window. -/
def Main (objects : Objects) (windowId : String) : Prop :=
  ∃ client : Client, objects.find .client client.id = some client ∧ client.mainWindowId = windowId

/-- **The objects are what the history says.** -/
structure Follows (objects : Objects) (history : History) : Prop where
  workspaceName : ∀ id, objects.workspaceName id = history.workspaceName id
  tabs : ∀ workspaceId, objects.tabs workspaceId = history.tabs workspaceId
  tabName : ∀ id, objects.tabName id = history.tabName id
  blocks : ∀ tabId, objects.blocks tabId = history.blocks tabId
  block : ∀ id, objects.find .block id = history.block id
  activeTab : ∀ windowId, objects.activeTab windowId = history.activeTab windowId
  activeBlock : ∀ windowId tabId,
    objects.activeBlock windowId tabId = history.activeBlock windowId tabId
  mainWindow : ∀ windowId, objects.Main windowId ↔ history.mainWindow = some windowId

end Objects

/-- **What a call says is what it does to the objects.** -/
structure Exchange.Makes (exchange : Exchange) (objects later : Objects) : Prop where
  workspaceName : ∀ id,
    later.workspaceName id = (exchange.workspaceName id).or (objects.workspaceName id)
  tabs : ∀ workspaceId,
    later.tabs workspaceId = objects.tabs workspaceId ++ (exchange.newTab workspaceId).toList
  tabName : ∀ id, later.tabName id = (exchange.tabName id).or (objects.tabName id)
  blocks : ∀ tabId, later.blocks tabId =
    exchange.remaining tabId (objects.blocks tabId) ++ (exchange.newBlock tabId).toList
  block : ∀ id, later.find .block id = (exchange.block id).getD (objects.find .block id)
  activeTab : ∀ windowId,
    later.activeTab windowId = (exchange.activeTab windowId).or (objects.activeTab windowId)
  activeBlock : ∀ windowId tabId, later.activeBlock windowId tabId =
    (exchange.activeBlock windowId tabId).or (objects.activeBlock windowId tabId)
  mainWindow : ∀ windowId, later.Main windowId ↔
    exchange.mainWindow = some windowId ∨ exchange.mainWindow = none ∧ objects.Main windowId

namespace Objects

variable {objects later : Objects} {history : History} {request : Request} {response : Response}

theorem follows_empty : Follows (fun _ => none) [] where
  workspaceName _ := rfl
  tabs _ := rfl
  tabName _ := rfl
  blocks _ := rfl
  block _ := rfl
  activeTab _ := rfl
  activeBlock _ _ := rfl
  mainWindow windowId := by simp [Main, find, History.mainWindow, History.lastly]

/-- **Objects that follow a history follow it after the next call.** -/
theorem Follows.next (follows : objects.Follows history) {exchange : Exchange}
    (makes : exchange.Makes objects later) : later.Follows (history ++ [exchange]) where
  workspaceName id := by
    rw [makes.workspaceName, follows.workspaceName]
    exact (History.lastly_concat ..).symm
  tabs workspaceId := by rw [makes.tabs, follows.tabs, History.tabs_concat]
  tabName id := by
    rw [makes.tabName, follows.tabName]
    exact (History.lastly_concat ..).symm
  blocks tabId := by rw [makes.blocks, follows.blocks, History.blocks_concat]
  block id := by
    rw [makes.block, follows.block]
    refine Eq.trans ?_ (congrArg Option.join (History.lastly_concat ..)).symm
    rw [History.block]
    cases exchange.block id with
    | none => rfl
    | some block => rfl
  activeTab windowId := by
    rw [makes.activeTab, follows.activeTab]
    exact (History.lastly_concat ..).symm
  activeBlock windowId tabId := by
    rw [makes.activeBlock, follows.activeBlock]
    exact (History.lastly_concat ..).symm
  mainWindow windowId := by
    have said : (history ++ [exchange]).mainWindow = _ := History.lastly_concat ..
    rw [makes.mainWindow, follows.mainWindow, said, Option.or_eq_some_iff]
    rfl

/-! ## Turns -/

/-- A call that says nothing leaves the objects as they are. -/
theorem makes_of_silent {exchange : Exchange} (workspace : ∀ id, exchange.workspaceName id = none)
    (newTab : ∀ id, exchange.newTab id = none) (tab : ∀ id, exchange.tabName id = none)
    (newBlock : ∀ id, exchange.newBlock id = none) (gone : ∀ id, exchange.goneBlock id = none)
    (block : ∀ id, exchange.block id = none) (shown : ∀ id, exchange.activeTab id = none)
    (active : ∀ id tabId, exchange.activeBlock id tabId = none)
    (main : exchange.mainWindow = none) :
    exchange.Makes objects objects where
  workspaceName id := by simp [workspace]
  tabs id := by simp [newTab]
  tabName id := by simp [tab]
  blocks id := by simp [newBlock, Exchange.remaining, gone]
  block id := by simp [block]
  activeTab id := by simp [shown]
  activeBlock id tabId := by simp [active]
  mainWindow id := by simp [main]

theorem Turn.workspaceName (turn : objects.Turn request response later) (id : String) :
    later.workspaceName id =
      ((Exchange.asked request (.ok response)).workspaceName id).or (objects.workspaceName id) := by
  cases turn with
  | @createWorkspace name new free =>
      by_cases here : id = new
      · simp [Objects.workspaceName, Exchange.workspaceName, here, Kind.id, Record.id]
      · simp [Objects.workspaceName, Exchange.workspaceName, here, Kind.id, Record.id]
  | @createTab workspace name new found free =>
      have found := find_eq_some.2 found
      by_cases here : id = workspace.id
      · simp [Objects.workspaceName, Exchange.workspaceName, here, Kind.id, found]
      · simp [Objects.workspaceName, Exchange.workspaceName, here, Kind.id]
  | _ => simp [Objects.workspaceName, Exchange.workspaceName]

theorem Turn.tabs (turn : objects.Turn request response later) (id : String) :
    later.tabs id =
      objects.tabs id ++ ((Exchange.asked request (.ok response)).newTab id).toList := by
  cases turn with
  | @createWorkspace name new free =>
      have absent := find_of_none free
      by_cases here : id = new
      · simp [Objects.tabs, Exchange.newTab, here, Kind.id, absent]
      · simp [Objects.tabs, Exchange.newTab, here, Kind.id]
  | @createTab workspace name new found free =>
      have found := find_eq_some.2 found
      by_cases here : id = workspace.id
      · simp [Objects.tabs, Exchange.newTab, here, Kind.id, Record.id, found]
      · simp [Objects.tabs, Exchange.newTab, here, Kind.id]
  | _ => simp [Objects.tabs, Exchange.newTab]

theorem Turn.tabName (turn : objects.Turn request response later) (id : String) :
    later.tabName id =
      ((Exchange.asked request (.ok response)).tabName id).or (objects.tabName id) := by
  cases turn with
  | @createTab workspace name new found free =>
      by_cases here : id = new
      · simp [Objects.tabName, Exchange.tabName, here, Kind.id, Record.id]
      · simp [Objects.tabName, Exchange.tabName, here, Kind.id, Record.id]
  | @createBlock tab definition options new found free =>
      have found := find_eq_some.2 found
      by_cases here : id = tab.id
      · simp [Objects.tabName, Exchange.tabName, here, Kind.id, found]
      · simp [Objects.tabName, Exchange.tabName, here, Kind.id]
  | @deleteBlock tab blockId found listed =>
      have found := find_eq_some.2 found
      by_cases here : id = tab.id
      · simp [Objects.tabName, Exchange.tabName, here, Kind.id, found]
      · simp [Objects.tabName, Exchange.tabName, here, Kind.id]
  | _ => simp [Objects.tabName, Exchange.tabName]

theorem Turn.blocks (turn : objects.Turn request response later) (id : String) :
    let exchange := Exchange.asked request (.ok response)
    later.blocks id =
      exchange.remaining id (objects.blocks id) ++ (exchange.newBlock id).toList := by
  dsimp only
  rw [Exchange.remaining]
  cases turn with
  | @createTab workspace name new found free =>
      have absent := find_of_none free
      by_cases here : id = new
      · simp [Objects.blocks, Exchange.goneBlock, Exchange.newBlock, here, Kind.id, absent]
      · simp [Objects.blocks, Exchange.goneBlock, Exchange.newBlock, here, Kind.id]
  | @createBlock tab definition options new found free =>
      have found := find_eq_some.2 found
      by_cases here : id = tab.id
      · simp [Objects.blocks, Exchange.goneBlock, Exchange.newBlock, here, Kind.id, Record.id,
          found]
      · simp [Objects.blocks, Exchange.goneBlock, Exchange.newBlock, here, Kind.id]
  | @deleteBlock tab blockId found listed =>
      have found := find_eq_some.2 found
      by_cases here : id = tab.id
      · simp [Objects.blocks, Exchange.goneBlock, Exchange.newBlock, here, Kind.id, found]
      · simp [Objects.blocks, Exchange.goneBlock, Exchange.newBlock, here, Kind.id]
  | _ => simp [Objects.blocks, Exchange.goneBlock, Exchange.newBlock]

theorem Turn.block (turn : objects.Turn request response later) (id : String) :
    later.find .block id =
      ((Exchange.asked request (.ok response)).block id).getD (objects.find .block id) := by
  cases turn with
  | @createBlock tab definition options new found free =>
      by_cases here : id = new
      · simp [Exchange.block, here, Kind.id, Record.id, Record.as?]
      · simp [Exchange.block, here, Kind.id, Record.id]
  | @deleteBlock tab blockId found listed =>
      by_cases here : id = blockId
      · simp [Exchange.block, here]
      · simp [Exchange.block, here]
  | _ => simp [Exchange.block]

theorem Turn.activeTab (turn : objects.Turn request response later) (id : String) :
    later.activeTab id =
      ((Exchange.asked request (.ok response)).activeTab id).or (objects.activeTab id) := by
  cases turn with
  | @setActiveTab window tab found shown =>
      by_cases here : id = window.id
      · simp [Objects.activeTab, Exchange.activeTab, here, Kind.id]
      · simp [Objects.activeTab, Exchange.activeTab, here, Kind.id]
  | @setActiveBlock window tab blockId found shown listed =>
      have found := find_eq_some.2 found
      by_cases here : id = window.id
      · simp [Objects.activeTab, Exchange.activeTab, here, Kind.id, found]
      · simp [Objects.activeTab, Exchange.activeTab, here, Kind.id]
  | _ => simp [Objects.activeTab, Exchange.activeTab]

theorem Turn.activeBlock (turn : objects.Turn request response later) (id tabId : String) :
    later.activeBlock id tabId =
      ((Exchange.asked request (.ok response)).activeBlock id tabId).or
        (objects.activeBlock id tabId) := by
  cases turn with
  | @setActiveTab window tab found shown =>
      have found := find_eq_some.2 found
      by_cases here : id = window.id
      · simp [Objects.activeBlock, Exchange.activeBlock, here, Kind.id, found]
      · simp [Objects.activeBlock, Exchange.activeBlock, here, Kind.id]
  | @setActiveBlock window tab blockId found shown listed =>
      have found := find_eq_some.2 found
      by_cases here : id = window.id
      · by_cases there : tabId = tab.id
        · simp [Objects.activeBlock, Exchange.activeBlock, here, there, Kind.id]
        · simp [Objects.activeBlock, Exchange.activeBlock, here, there, Kind.id, found,
            SortedMap.get?_insert]
      · simp [Objects.activeBlock, Exchange.activeBlock, here, Kind.id]
  | _ => simp [Objects.activeBlock, Exchange.activeBlock]

/-- **A request that succeeds does to the objects what it says.** -/
theorem Turn.makes (turn : objects.Turn request response later) :
    (Exchange.asked request (.ok response)).Makes objects later where
  workspaceName := turn.workspaceName
  tabs := turn.tabs
  tabName := turn.tabName
  blocks := turn.blocks
  block := turn.block
  activeTab := turn.activeTab
  activeBlock := turn.activeBlock
  mainWindow windowId := by
    cases turn with
    | _ => simp [Main, Exchange.mainWindow]

/-- A request that fails says nothing. -/
theorem makes_of_error (request : Request) (cause : StoreError) :
    (Exchange.asked request (.error cause)).Makes objects objects := by
  cases request with
  | _ => apply makes_of_silent <;> intros <;> rfl

/-- The first data says nothing unless it was added. -/
theorem makes_of_not_added {answer : Except Refusal Bool} (added : answer ≠ .ok true)
    (ids : IdSource) : (Exchange.prepared answer ids).Makes objects objects := by
  match answer with
  | .ok true => exact absurd rfl added
  | .ok false => apply makes_of_silent <;> intros <;> rfl
  | .error _ => apply makes_of_silent <;> intros <;> rfl

/-- **The first data does to the objects what its call says.** -/
theorem makes_withFirst {ids : IdSource} (noClient : ∀ id, objects ⟨.client, id⟩ = none)
    (noTab : objects.find .tab (Tab.first ids).id = none)
    (noWorkspace : objects.find .workspace (Workspace.first ids).id = none)
    (noWindow : objects.find .window (Window.first ids).id = none) :
    (Exchange.prepared (.ok true) ids).Makes objects (objects.withFirst ids) where
  workspaceName id := by
    by_cases here : id = (Workspace.first ids).id
    · simp [Objects.workspaceName, Exchange.workspaceName, here]
    · simp [Objects.workspaceName, Exchange.workspaceName, here]
  tabs id := by
    by_cases here : id = (Workspace.first ids).id
    · simp [Objects.tabs, Exchange.newTab, here, noWorkspace]
    · simp [Objects.tabs, Exchange.newTab, here]
  tabName id := by
    by_cases here : id = (Tab.first ids).id
    · simp [Objects.tabName, Exchange.tabName, here]
    · simp [Objects.tabName, Exchange.tabName, here]
  blocks id := by
    rw [Exchange.remaining]
    by_cases here : id = (Tab.first ids).id
    · simp [Objects.blocks, Exchange.goneBlock, Exchange.newBlock, here, noTab]
    · simp [Objects.blocks, Exchange.goneBlock, Exchange.newBlock, here]
  block id := by simp [Exchange.block]
  activeTab id := by
    by_cases here : id = (Window.first ids).id
    · simp [Objects.activeTab, Exchange.activeTab, here]
    · simp [Objects.activeTab, Exchange.activeTab, here]
  activeBlock id tabId := by
    by_cases here : id = (Window.first ids).id
    · simp [Objects.activeBlock, Exchange.activeBlock, here, noWindow]
    · simp [Objects.activeBlock, Exchange.activeBlock, here]
  mainWindow id := by
    have others (client : String) : objects.find .client client = none :=
      find_of_none (noClient client)
    have only : (objects.withFirst ids).Main id ↔ (Window.first ids).id = id := by
      constructor
      · rintro ⟨client, found, main⟩
        rw [find_client_withFirst, others] at found
        split at found
        · cases found
          exact main
        · cases found
      · intro main
        exact ⟨Client.first ids, by simp, main⟩
    rw [only]
    simp [Exchange.mainWindow, Main, others]

/-- The same of any call for the first data that succeeds. -/
theorem Start.makes {ids : IdSource} {value : Option Client}
    (start : objects.Start ids value later) :
    (Exchange.prepared (.ok value.isSome) ids).Makes objects later := by
  cases start with
  | skipped _ =>
      have nothing : (Except.ok false : Except Refusal Bool) ≠ .ok true := by decide
      exact makes_of_not_added nothing ids
  | added noClient freeTab freeWorkspace freeWindow =>
      exact makes_withFirst noClient (find_of_none freeTab) (find_of_none freeWorkspace)
        (find_of_none freeWindow)

end Objects

end ScopedStore
