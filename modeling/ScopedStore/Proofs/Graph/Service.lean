import ScopedStore.Proofs.Graph.History
import ScopedStore.Proofs.Graph.Plans

/-!
# The service follows its history

From an empty store on, what is stored is what the history says (`service_follows_history`): the
tabs of every workspace and the blocks of every tab in their order, every block as it was created,
and what every window shows. Every answer fits the history before it (`Exchange.Fits`). Calls that
fail are part of the history and say nothing.

What is stored is read back as long as it can be: a block whose metadata is nested too deeply, or
holds a number that is not read as it was written, is stored as it was created and read otherwise,
or not at all (`imprecise_block_is_read_otherwise`).
-/

set_option autoImplicit false

namespace ScopedStore

/-! ## Answers -/

/-- **The answer fits the history before the call.** -/
def Exchange.Fits (history : History) : Exchange → Prop
  | asked (.createWorkspace name) (.ok answer) =>
      ∃ id, answer = .record ⟨.workspace, Workspace.stored id name⟩ ∧
        history.workspaceName id = none
  | asked (.createTab workspaceId name) (.ok answer) =>
      (history.workspaceName workspaceId).isSome ∧
        ∃ id, answer = .record ⟨.tab, Tab.stored id name⟩ ∧ history.tabName id = none
  | asked (.createBlock tabId definition options) (.ok answer) =>
      (history.tabName tabId).isSome ∧
        ∃ id, answer = .record ⟨.block, Block.stored id definition options⟩ ∧
          history.block id = none
  | asked (.deleteBlock tabId blockId) (.ok answer) =>
      blockId ∈ history.blocks tabId ∧ answer = .done
  | asked (.setActiveTab windowId tabId) (.ok answer) =>
      (history.activeTab windowId).isSome ∧ (history.tabName tabId).isSome ∧ answer = .done
  | asked (.setActiveBlock windowId tabId blockId) (.ok answer) =>
      (history.activeTab windowId).isSome ∧ blockId ∈ history.blocks tabId ∧ answer = .done
  | asked .getClient (.ok answer) =>
      ∃ client : Client, answer = .record ⟨.client, client⟩ ∧
        history.mainWindow = some client.mainWindowId
  | asked (.getWindowView windowId) (.ok answer) =>
      ∃ tabId, history.activeTab windowId = some tabId ∧ answer = .view ⟨windowId, tabId⟩
  | asked .getMainView (.ok answer) =>
      ∃ windowId tabId, history.mainWindow = some windowId ∧
        history.activeTab windowId = some tabId ∧ answer = .view ⟨windowId, tabId⟩
  | prepared (.ok added) _ => history.mainWindow.isSome = !added
  | asked _ (.error _) | prepared (.error _) _ => True

/-- Every answer fits the history before it. -/
def History.Fits (history : History) : Prop :=
  ∀ before exchange, before ++ [exchange] <+: history → exchange.Fits before

/-- Whatever a request fails with fits. -/
theorem Exchange.Fits.of_error (request : Request) (cause : StoreError) (history : History) :
    (Exchange.asked request (.error cause)).Fits history := by
  cases request with
  | _ => exact trivial

theorem History.fits_nil : History.Fits [] := by
  intro before exchange part
  simp at part

theorem History.Fits.concat {history : History} {exchange : Exchange} (fits : history.Fits)
    (last : exchange.Fits history) : (history ++ [exchange]).Fits := by
  intro before other part
  rcases List.prefix_concat_iff.1 part with all | earlier
  · obtain ⟨rfl, same⟩ := List.append_inj' all rfl
    cases same
    exact last
  · exact fits before other earlier

namespace Objects

variable {objects later : Objects} {history : History} {request : Request} {response : Response}

/-- **What a request answers fits the history.** -/
theorem Turn.fits (turn : objects.Turn request response later) (follows : objects.Follows history) :
    (Exchange.asked request (.ok response)).Fits history := by
  cases turn with
  | @createWorkspace name id free =>
      refine ⟨id, rfl, ?_⟩
      rw [← follows.workspaceName, Objects.workspaceName, find_of_none free]
      rfl
  | @createTab workspace name id found free =>
      refine ⟨?_, id, rfl, ?_⟩
      · rw [← follows.workspaceName, Objects.workspaceName, find_eq_some.2 found]
        rfl
      · rw [← follows.tabName, Objects.tabName, find_of_none free]
        rfl
  | @createBlock tab definition options id found free =>
      refine ⟨?_, id, rfl, ?_⟩
      · rw [← follows.tabName, Objects.tabName, find_eq_some.2 found]
        rfl
      · rw [← follows.block, find_of_none free]
  | @deleteBlock tab blockId found listed =>
      refine ⟨?_, rfl⟩
      rw [← follows.blocks, Objects.blocks, find_eq_some.2 found]
      exact listed
  | @setActiveTab window tab found shown =>
      refine ⟨?_, ?_, rfl⟩
      · rw [← follows.activeTab, Objects.activeTab, find_eq_some.2 found]
        rfl
      · rw [← follows.tabName, Objects.tabName, find_eq_some.2 shown]
        rfl
  | @setActiveBlock window tab blockId found shown listed =>
      refine ⟨?_, ?_, rfl⟩
      · rw [← follows.activeTab, Objects.activeTab, find_eq_some.2 found]
        rfl
      · rw [← follows.blocks, Objects.blocks, find_eq_some.2 shown]
        exact listed
  | @getClient client found =>
      exact ⟨client, rfl, (follows.mainWindow _).1 ⟨client, find_eq_some.2 found, rfl⟩⟩
  | @getWindowView window found =>
      refine ⟨window.activeTabId, ?_, rfl⟩
      rw [← follows.activeTab, Objects.activeTab, find_eq_some.2 found]
      rfl
  | @getMainView client window found main shown =>
      refine ⟨window.id, window.activeTabId, ?_, ?_, rfl⟩
      · exact (follows.mainWindow _).1 ⟨client, find_eq_some.2 found, main.symm⟩
      · rw [← follows.activeTab, Objects.activeTab, find_eq_some.2 shown]
        rfl

/-- What is answered when the first data is asked for fits the history. -/
theorem Start.fits {ids : IdSource} {value : Option Client}
    (start : objects.Start ids value later) (follows : objects.Follows history) :
    (Exchange.prepared (.ok value.isSome) ids).Fits history := by
  have said (windowId : String) := follows.mainWindow windowId
  cases start with
  | @skipped client found =>
      have main : history.mainWindow = some client.mainWindowId :=
        (said _).1 ⟨client, find_eq_some.2 found, rfl⟩
      rw [Option.isSome_none, Exchange.Fits, main]
      rfl
  | added noClient freeTab freeWorkspace freeWindow =>
      have nobody : history.mainWindow = none := by
        refine Option.eq_none_iff_forall_ne_some.2 fun windowId main => ?_
        obtain ⟨client, found, _⟩ := (said windowId).2 main
        rw [find_of_none (noClient _)] at found
        cases found
      rw [Option.isSome_some, Exchange.Fits, nobody]
      rfl

end Objects

/-! ## What an answer tells about later calls -/

namespace History

variable {history : History}

theorem exists_of_lastly {α : Type} {news : Exchange → Option α} {value : α}
    (said : history.lastly news = some value) : ∃ exchange ∈ history, news exchange = some value :=
  List.mem_filterMap.1 (List.mem_of_getLast? said)

theorem isSome_lastly {α : Type} {news : Exchange → Option α} {exchange : Exchange}
    (member : exchange ∈ history) (said : (news exchange).isSome) : (history.lastly news).isSome := by
  obtain ⟨value, said⟩ := Option.isSome_iff_exists.1 said
  have some : history.filterMap news ≠ [] :=
    List.ne_nil_of_mem (List.mem_filterMap.2 ⟨exchange, member, said⟩)
  rw [lastly, List.getLast?_eq_some_getLast some]
  rfl

theorem Fits.exchange (fits : history.Fits) {exchange : Exchange} (member : exchange ∈ history) :
    ∃ before, exchange.Fits before := by
  obtain ⟨before, since, rfl⟩ := List.append_of_mem member
  exact ⟨before, fits before exchange ⟨since, by simp⟩⟩

/-- **The main window has an active tab.** -/
theorem isSome_activeTab {windowId : String} (main : history.mainWindow = some windowId) :
    (history.activeTab windowId).isSome := by
  obtain ⟨exchange, member, said⟩ := exists_of_lastly main
  refine isSome_lastly member ?_
  unfold Exchange.mainWindow at said
  split at said
  · cases said
    simp [Exchange.activeTab]
  · cases said

end History

/-- The block has the controller, the view and the metadata of its definition. -/
def Block.AsDefined (block : Block) : Prop :=
  block.controller = block.definition.controller ∧ block.view = block.definition.view ∧
    block.metadata = block.definition.metadata

/-- **Every block is as its definition says.** -/
theorem History.Fits.asDefined {history : History} (fits : history.Fits) {id : String}
    {block : Block} (found : history.block id = some block) : block.AsDefined := by
  obtain ⟨exchange, member, said⟩ := exists_of_lastly (Option.join_eq_some_iff.1 found)
  obtain ⟨before, fits⟩ := fits.exchange member
  unfold Exchange.block at said
  split at said
  · split at said
    · obtain ⟨_, new, same, _⟩ := fits
      cases same
      cases said
      exact ⟨rfl, rfl, rfl⟩
    · cases said
  · split at said <;> cases said
  · cases said

/-! ## Versions -/

namespace Objects

/-- Every object was stored, and none of them more often than that. -/
def VersionsUpTo (objects : Objects) (most : Nat) : Prop :=
  ∀ ref record, objects ref = some record → 0 < record.version ∧ record.version ≤ most

namespace VersionsUpTo

variable {objects later : Objects} {most : Nat} {record : Record}

theorem put (upTo : objects.VersionsUpTo most) (stored : 0 < record.version)
    (few : record.version ≤ most) : (objects.put record).VersionsUpTo most := by
  intro ref held found
  rcases put_eq_some found with ⟨_, rfl⟩ | ⟨_, before⟩
  · exact ⟨stored, few⟩
  · exact upTo ref held before

theorem erase (upTo : objects.VersionsUpTo most) (gone : Ref) :
    (objects.erase gone).VersionsUpTo most :=
  fun ref record found => upTo ref record (erase_eq_some found).2

/-- An object is stored for the first time. -/
theorem put_first (upTo : objects.VersionsUpTo (most + 1)) (first : record.version = 1) :
    (objects.put record).VersionsUpTo (most + 1) :=
  upTo.put (by omega) (by omega)

/-- An object is stored once more. -/
theorem put_next (upTo : objects.VersionsUpTo most) {ref : Ref} {held : Record}
    (found : objects ref = some held) (others : later.VersionsUpTo (most + 1))
    (next : record.version = held.version + 1) : (later.put record).VersionsUpTo (most + 1) := by
  have range := upTo ref held found
  exact others.put (by omega) (by omega)

theorem mono (upTo : objects.VersionsUpTo most) : objects.VersionsUpTo (most + 1) := by
  intro ref record found
  have range := upTo ref record found
  exact ⟨range.1, by omega⟩

end VersionsUpTo

variable {objects later : Objects} {most : Nat}

/-- A request stores every object once at most. -/
theorem Turn.versionsUpTo {request : Request} {response : Response}
    (turn : objects.Turn request response later) (upTo : objects.VersionsUpTo most) :
    later.VersionsUpTo (most + 1) := by
  cases turn with
  | createWorkspace _ => exact upTo.mono.put_first rfl
  | createTab found _ => exact upTo.put_next found (upTo.mono.put_first rfl) rfl
  | createBlock found _ => exact upTo.put_next found (upTo.mono.put_first rfl) rfl
  | deleteBlock found _ => exact (upTo.put_next found upTo.mono rfl).erase _
  | setActiveTab found _ => exact upTo.put_next found upTo.mono rfl
  | setActiveBlock found _ _ => exact upTo.put_next found upTo.mono rfl
  | getClient _ => exact upTo.mono
  | getWindowView _ => exact upTo.mono
  | getMainView _ _ _ => exact upTo.mono

theorem Start.versionsUpTo {ids : IdSource} {value : Option Client}
    (start : objects.Start ids value later) (upTo : objects.VersionsUpTo most) :
    later.VersionsUpTo (most + 1) := by
  cases start with
  | skipped _ => exact upTo.mono
  | added _ _ _ _ =>
      exact (((upTo.mono.put_first rfl).put_first rfl).put_first rfl).put_first rfl

end Objects

/-! ## Stores that are served -/

/-- The database holds what the history says. -/
structure Database.Agrees (database : Database) (objects : Objects) (history : History) : Prop where
  holds : database.Holds objects
  follows : objects.Follows history
  versions : objects.VersionsUpTo history.length
  tables : ∀ kind, (database.tables.get? kind).isSome

namespace Database.Agrees

variable {database after : Database} {objects later : Objects} {history : History}
  {exchange : Exchange}

theorem empty : vacant.Agrees (fun _ => none) [] where
  holds := holds_vacant
  follows := Objects.follows_empty
  versions _ _ found := nomatch found
  tables := exists_table_vacant

/-- **What agrees with a history agrees with it after the next call.** -/
theorem next (agrees : database.Agrees objects history)
    (passes : database.Passes objects after later) (makes : exchange.Makes objects later)
    (versions : later.VersionsUpTo (history.length + 1)) :
    after.Agrees later (history ++ [exchange]) where
  holds := passes.holds
  follows := agrees.follows.next makes
  versions := by
    rw [List.length_append]
    exact versions
  tables kind := (passes.tables kind).trans (agrees.tables kind)

/-- The same of a call that does nothing. -/
theorem idle (agrees : database.Agrees objects history) (makes : exchange.Makes objects objects) :
    database.Agrees objects (history ++ [exchange]) :=
  agrees.next (.refl agrees.holds) makes agrees.versions.mono

/-- As long as there were not too many calls, no version has outgrown 64 bits. -/
theorem versionsFit (agrees : database.Agrees objects history)
    (few : history.length < Bounds.signed64) : database.VersionsFit := by
  intro ref row stored
  rw [agrees.holds.row] at stored
  obtain ⟨record, found, rfl⟩ := Option.map_eq_some_iff.1 stored
  have range := agrees.versions ref record found
  have same : record.row.version = record.version := rfl
  rw [same]
  constructor <;> omega

end Database.Agrees

namespace Store

variable {history : History} {store : Store}

/-- A store that was empty once, and the calls of its service since. All but the content may change
in between: the ids to come, the time, what others do with the file, and who is told about
changes. -/
inductive Served : History → Store → Prop
  | empty {store : Store} (empty : store.database = .vacant) : Served [] store
  | asked {history : History} {store : Store} (served : Served history store) (request : Request) :
      Served (history ++ [.asked request (Service.handle store request).1])
        (Service.handle store request).2
  | prepared {history : History} {store : Store} (served : Served history store) :
      Served (history ++ [.prepared (Service.ensureInitialData store).1 store.ids])
        (Service.ensureInitialData store).2
  | meanwhile {history : History} {store other : Store} (served : Served history store)
      (same : other.database = store.database) : Served history other

/-- **A served store agrees with its history**, and every answer fits it. -/
theorem Served.agrees (served : store.Served history) :
    history.Fits ∧ ∃ objects, store.database.Agrees objects history := by
  induction served with
  | @empty store empty =>
      rw [empty]
      exact ⟨History.fits_nil, _, Database.Agrees.empty⟩
  | @asked history store _ request ih =>
      obtain ⟨fits, objects, agrees⟩ := ih
      have opened : (Handle.start store.database true store.ids store.now).openScope.Lockstep :=
        (Handle.Does.opened _).lockstep (Handle.lockstep_start ..)
      rcases store.transactValue_answers request.answer with
        ⟨response, after, answer, given, left⟩ | ⟨cause, answer, same⟩
      · obtain ⟨later, turn, passes⟩ := request.turn opened agrees.holds given
        rw [Service.handle, answer, left]
        exact ⟨fits.concat (turn.fits agrees.follows), later,
          agrees.next passes turn.makes (turn.versionsUpTo agrees.versions)⟩
      · rw [Service.handle, answer, same]
        exact ⟨fits.concat (.of_error request cause history), objects,
          agrees.idle (Objects.makes_of_error request cause)⟩
  | @prepared history store _ ih =>
      obtain ⟨fits, objects, agrees⟩ := ih
      rcases store.ensureInitialData_answers with
        ⟨value, after, answer, given, left⟩ | ⟨refusal, answer, same⟩
      · let start := (Handle.start store.database false store.ids store.now).openScope
        have holds : start.content.Holds objects := agrees.holds
        obtain ⟨later, start, passes⟩ := Graph.start_seed holds given
        rw [answer, left]
        exact ⟨fits.concat (start.fits agrees.follows), later,
          agrees.next passes start.makes (start.versionsUpTo agrees.versions)⟩
      · rw [answer, same]
        have nothing : (Except.error refusal : Except Refusal Bool) ≠ .ok true := nofun
        exact ⟨fits.concat trivial, objects, agrees.idle (Objects.makes_of_not_added nothing _)⟩
  | meanwhile _ same ih => exact same ▸ ih

end Store

/-- The block is read back as it is: its metadata is not nested too deeply, and every number in it
is read as it was written. -/
def Block.ReadsBack (block : Block) : Prop :=
  Kind.block.FreeData Json.Exact block ∧
    (Kind.block.bodyFormat.write block).depth ≤ Json.maxLevels

/-- **The main window can be asked for**, and what it shows is what the history says. -/
theorem Store.Served.gives_getMainView {history : History} {store : Store}
    (served : store.Served history) (few : history.length < Bounds.signed64) {windowId : String}
    (main : history.mainWindow = some windowId) {handle : Handle}
    (same : handle.content = store.database) :
    ∃ tabId, history.activeTab windowId = some tabId ∧
      Transaction.Gives Graph.getMainView handle ⟨windowId, tabId⟩ handle := by
  obtain ⟨_, objects, agrees⟩ := served.agrees
  have fit := agrees.versionsFit few
  have holds := agrees.holds
  rw [← same] at fit holds
  obtain ⟨tabId, active⟩ := Option.isSome_iff_exists.1 (History.isSome_activeTab main)
  refine ⟨tabId, active, ?_⟩
  obtain ⟨known, found, _⟩ := (agrees.follows.mainWindow windowId).2 main
  have present := Option.isSome_of_mem (Objects.find_eq_some.1 found)
  obtain ⟨client, given, found⟩ := holds.gives_getClient fit present
  have named : history.mainWindow = some client.mainWindowId :=
    (agrees.follows.mainWindow _).1 ⟨client, Objects.find_eq_some.2 found, rfl⟩
  obtain rfl : windowId = client.mainWindowId := Option.some.inj (main.symm.trans named)
  rw [← agrees.follows.activeTab] at active
  obtain ⟨window, shown, rfl⟩ := Option.map_eq_some_iff.1 active
  have stored := Objects.find_eq_some.1 shown
  obtain ⟨_, again, address⟩ := holds.exists_body (Option.isSome_of_mem stored)
  cases stored.symm.trans again
  have view := holds.gives_getMainView fit given stored
  have same : window.id = client.mainWindowId := address
  rwa [same] at view

/-- **The service follows its history.** From an empty store on, whatever is asked and whatever
fails, every answer fits the history before it, every block is as its definition says, and the rows
hold objects that are what the history says. These are read, a block at least if it can be read
back, and what the main window shows is answered, as long as nobody is at the file. -/
theorem service_follows_history {history : History} {store : Store}
    (served : store.Served history) :
    history.Fits ∧ (∀ id block, history.block id = some block → block.AsDefined) ∧
      ∃ objects : Objects, store.database.Holds objects ∧ objects.Follows history ∧
        (history.length < Bounds.signed64 →
          (∀ handle : Handle, handle.content = store.database →
            (∀ kind id, kind ≠ .block → handle.get kind id = .ok (objects.find kind id)) ∧
            ∀ id, (∀ block, history.block id = some block → block.ReadsBack) →
              handle.get .block id = .ok (history.block id)) ∧
          (store.contention = .free → ∀ windowId, history.mainWindow = some windowId →
            ∃ tabId, history.activeTab windowId = some tabId ∧
              (Service.handle store .getMainView).1 = .ok (.view ⟨windowId, tabId⟩))) := by
  obtain ⟨fits, objects, agrees⟩ := served.agrees
  refine ⟨fits, fun id block => fits.asDefined, objects, agrees.holds, agrees.follows,
    fun few => ⟨fun handle same => ?_, fun free windowId main => ?_⟩⟩
  · have fit := agrees.versionsFit few
    have holds := agrees.holds
    have tables := agrees.tables
    rw [← same] at fit holds tables
    refine ⟨fun kind id noBlock => holds.get_find_of_noBlock fit noBlock (tables kind), ?_⟩
    intro id readable
    rw [← agrees.follows.block] at readable ⊢
    exact holds.get_find fit (tables .block) readable
  · let start := (Handle.start store.database true store.ids store.now).openScope
    have same : start.content = store.database := rfl
    obtain ⟨tabId, active, given⟩ := served.gives_getMainView few main same
    have answers : Transaction.Gives Request.getMainView.answer start (.view ⟨windowId, tabId⟩)
        start :=
      Transaction.gives_bind.2 ⟨_, _, given, Transaction.gives_pure.2 ⟨rfl, rfl⟩⟩
    exact ⟨tabId, active, Store.transactValue_of_free free answers⟩

/-! ## Runs -/

namespace Service

/-- Answers requests one after the other. -/
def handleAll (store : Store) : List Request → History × Store
  | [] => ([], store)
  | request :: requests =>
      let (answer, store) := handle store request
      let (since, last) := handleAll store requests
      (.asked request answer :: since, last)

theorem served_handleAll (requests : List Request) {history : History} {store : Store}
    (served : store.Served history) :
    (handleAll store requests).2.Served (history ++ (handleAll store requests).1) := by
  induction requests generalizing history store with
  | nil => exact (List.append_nil history).symm ▸ served
  | cons request requests ih =>
      have next := ih (served.asked request)
      rw [List.append_assoc] at next
      exact next

/-- Sets up the first data and answers requests after that. -/
def session (store : Store) (requests : List Request) : History × Store :=
  let (added, prepared) := ensureInitialData store
  let (since, last) := handleAll prepared requests
  (.prepared added store.ids :: since, last)

theorem served_session {store : Store} (empty : store.database = .vacant)
    (requests : List Request) : (session store requests).2.Served (session store requests).1 :=
  served_handleAll requests (.prepared (.empty empty))

end Service

/-- A store that is empty, and draws the numbers in their order. -/
def Store.numbered : Store := { Store.vacant with ids := ⟨Nat.repr, 0⟩ }

/-- The definition of a block with a number in its metadata. -/
def BlockDefinition.measured (number : Decimal.Double) : BlockDefinition :=
  ⟨"", "", ∅, .ofList [("a", .double number)]⟩

/-- A half more than two. -/
def twoAndAHalf : Decimal.Double := ⟨false, 5629499534213120, -51⟩

/-- A second tab with a block. -/
def secondTab : History × Store :=
  Service.session .numbered
    [.createTab "1" "second", .createBlock "4" (.measured twoAndAHalf) none]

/-- The history tells of it, and the service shows the first tab. -/
theorem second_tab_is_listed :
    let history := secondTab.1
    let store := secondTab.2
    store.Served history ∧ history.tabs "1" = ["0", "4"] ∧ history.blocks "4" = ["5"] ∧
      (∃ objects : Objects, store.database.Holds objects ∧ objects.tabs "1" = ["0", "4"] ∧
        objects.blocks "4" = ["5"]) ∧
      (∀ handle : Handle, handle.content = store.database →
        handle.get .block "5" = .ok (some (.stored "5" (.measured twoAndAHalf) none))) ∧
      (Service.handle store .getMainView).1 = .ok (.view ⟨"2", "0"⟩) := by
  intro history store
  have served : store.Served history := Service.served_session rfl _
  have told : history.tabs "1" = ["0", "4"] ∧ history.blocks "4" = ["5"] ∧
      history.block "5" = some (.stored "5" (.measured twoAndAHalf) none) ∧
      history.mainWindow = some "2" ∧ history.activeTab "2" = some "0" ∧
      history.length < Bounds.signed64 ∧ store.contention = .free := by decide +kernel
  obtain ⟨tabs, blocks, created, main, active, few, free⟩ := told
  obtain ⟨_, _, objects, holds, follows, read⟩ := service_follows_history served
  obtain ⟨read, shown⟩ := read few
  refine ⟨served, tabs, blocks, ⟨objects, holds, ?_, ?_⟩, fun handle same => ?_, ?_⟩
  · rw [follows.tabs, tabs]
  · rw [follows.blocks, blocks]
  · refine ((read handle same).2 "5" fun block found => ?_).trans (congrArg Except.ok created)
    cases created.symm.trans found
    have back : Json.ReadsBack twoAndAHalf := by decide +kernel
    have data : ∀ entry ∈ (BlockDefinition.measured twoAndAHalf).metadata.entries,
        entry.2.Exact := fun _ member => List.mem_singleton.1 member ▸ ⟨trivial, back⟩
    exact ⟨⟨data, data, nofun⟩, by decide +kernel⟩
  · obtain ⟨tabId, same, answer⟩ := shown free "2" main
    cases active.symm.trans same
    exact answer

/-- A block with the number 9.100000000000001e+49. -/
def preciseBlock : History × Store :=
  Service.session .numbered [.createBlock "0" (.measured ⟨false, 8762981246961924, 113⟩) none]

/-- It is answered as it was asked for, and read with the number below, 9.1e+49. -/
theorem imprecise_block_is_read_otherwise :
    let handle : Handle := .start preciseBlock.2.database true default 0
    let created : Block := .stored "4" (.measured ⟨false, 8762981246961924, 113⟩) none
    let read : Block := .stored "4" (.measured ⟨false, 8762981246961923, 113⟩) none
    preciseBlock.2.Served preciseBlock.1 ∧ preciseBlock.1.block "4" = some created ∧
      handle.get .block "4" = .ok (some read) ∧ read ≠ created := by
  intro handle created read
  have served : preciseBlock.2.Served preciseBlock.1 := Service.served_session rfl _
  have told : preciseBlock.1.block "4" = some created := by decide +kernel
  have given : handle.get .block "4" = .ok (some read) := by decide +kernel
  exact ⟨served, told, given, by decide⟩

end ScopedStore
