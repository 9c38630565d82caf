import ScopedStore.Proofs.Logs.Works

/-!
# Requests that end the same way

The same request, made on two handles of the same shape, leaves handles of the same shape if it
ends the same way on both: with success, or with the same kind of failure
(`Request.SameShape.shaped`). What a request says about the objects may differ, such as the name
of a new tab or the definition of a new block.

Every request looks at the objects before it writes any, and what it may find wrong with them,
such as a body that cannot be read, is of another kind than what may be wrong with a write. So
where a request fails it has found what is wrong before its first write, or both sides have made
the same writes. The first data needs no such condition (`Graph.alongside_seed`).
-/

set_option autoImplicit false

namespace ScopedStore

/-! ## Kinds of failures -/

namespace Repository

variable {database : Database} {stored : StoredRecord} {cause : RepositoryError}

theorem kind_of_table {kind : Kind} (failed : table database kind = .error cause) :
    cause.kind = .engine := by
  obtain ⟨_, _, rfl⟩ := mapError_eq_error.1 failed
  rfl

theorem kind_of_insert (failed : insert database stored = .error cause) :
    cause.kind = .engine ∨ cause.kind = .duplicateKey := by
  rcases bind_eq_error.1 failed with missing | ⟨table, _, rest⟩
  · exact .inl (kind_of_table missing)
  · split at rest
    · cases rest
      exact .inr rfl
    · cases rest

theorem kind_of_update {expected : Int} (failed : update database stored expected = .error cause) :
    cause.kind = .engine ∨ cause.kind = .notFound ∨ cause.kind = .versionConflict := by
  rcases bind_eq_error.1 failed with missing | ⟨table, _, rest⟩
  · exact .inl (kind_of_table missing)
  · split at rest
    · cases rest
      exact .inr (.inl rfl)
    · split at rest
      · cases rest
      · cases rest
        exact .inr (.inr rfl)

theorem kind_of_delete {ref : Ref} (failed : delete database ref = .error cause) :
    cause.kind = .engine := by
  rcases bind_eq_error.1 failed with missing | ⟨table, _, rest⟩
  · exact kind_of_table missing
  · split at rest <;> cases rest

theorem kind_of_addTombstone {now : Int} {ref : Ref}
    (failed : addTombstone database now ref = .error cause) : cause.kind = .engine := by
  rcases bind_eq_error.1 failed with missing | ⟨_, _, rest⟩
  · obtain ⟨_, _, rfl⟩ := mapError_eq_error.1 missing
    rfl
  · cases rest

end Repository

theorem StoreError.kind_ofRepository (cause : RepositoryError) :
    (StoreError.ofRepository cause).kind = cause.kind := by
  cases cause <;> rfl

namespace Handle

variable {handle : Handle} {cause : StoreError}

theorem kind_of_lift {α : Type} {result : Except RepositoryError α}
    (failed : lift result = .error cause) :
    ∃ behind, result = .error behind ∧ cause.kind = behind.kind := by
  obtain ⟨behind, found, rfl⟩ := mapError_eq_error.1 failed
  exact ⟨behind, found, StoreError.kind_ofRepository behind⟩

/-- What is wrong with a row that is not read is that its body cannot be read. -/
theorem unreadable_of_readRow {kind : Kind} {id : String} {row : Row}
    (failed : readRow kind id row = .error cause) : cause.kind.Unreadable := by
  rcases bind_eq_error.1 failed with missing | ⟨stored, _, rest⟩
  · obtain ⟨behind, failed, kinds⟩ := kind_of_lift missing
    rw [Repository.toRecord] at failed
    split at failed
    · cases failed
    · cases failed
      exact .inl kinds
  · rw [decode] at rest
    split at rest
    · cases rest
    · cases rest
      exact .inr rfl

end Handle

namespace Transaction

theorem spares_settle {α : Type} {kinds : ErrorKind → Prop}
    {operation : Operation (Except StoreError α)}
    {write : Handle → Except StoreError (α × Handle)}
    (settled : ∀ handle : Handle, handle.perform operation = handle.settle (write handle))
    (spares : ∀ handle cause, write handle = .error cause → ¬kinds cause.kind) :
    (ask operation).Spares kinds := by
  intro handle cause failed
  have answer : (handle.perform operation).1 = .error cause := failed
  rw [settled] at answer
  cases done : write handle with
  | ok result =>
      rw [done] at answer
      cases answer
  | error other =>
      rw [done] at answer
      cases answer
      exact spares handle cause done

variable {kinds : ErrorKind → Prop}

theorem spares_insert (kind : Kind) (body : kind.Body) (engine : ¬kinds .engine)
    (duplicate : ¬kinds .duplicateKey) : (ask (.insert kind body)).Spares kinds := by
  refine spares_settle (fun _ => rfl) fun handle cause failed => ?_
  rcases bind_eq_error.1 failed with missing | ⟨_, _, rest⟩
  · obtain ⟨behind, failed, same⟩ := Handle.kind_of_lift missing
    rcases Repository.kind_of_insert failed with found | found
    · exact same ▸ found ▸ engine
    · exact same ▸ found ▸ duplicate
  · cases rest

theorem spares_update (kind : Kind) (body : kind.Body) (engine : ¬kinds .engine)
    (missing : ¬kinds .notFound) (conflict : ¬kinds .versionConflict) :
    (ask (.update kind body)).Spares kinds := by
  refine spares_settle (fun _ => rfl) fun handle cause failed => ?_
  rcases bind_eq_error.1 failed with failed | ⟨_, _, rest⟩
  · obtain ⟨behind, failed, same⟩ := Handle.kind_of_lift failed
    rcases Repository.kind_of_update failed with found | found | found
    · exact same ▸ found ▸ engine
    · exact same ▸ found ▸ missing
    · exact same ▸ found ▸ conflict
  · cases rest

theorem spares_delete (kind : Kind) (id : String) (engine : ¬kinds .engine) :
    (ask (.delete kind id)).Spares kinds := by
  refine spares_settle (fun _ => rfl) fun handle cause failed => ?_
  rcases bind_eq_error.1 failed with failed | ⟨⟨existed, content⟩, _, rest⟩
  · obtain ⟨behind, failed, same⟩ := Handle.kind_of_lift failed
    exact same ▸ Repository.kind_of_delete failed ▸ engine
  · dsimp only at rest
    split at rest
    · rcases bind_eq_error.1 rest with failed | ⟨_, _, rest⟩
      · obtain ⟨behind, failed, same⟩ := Handle.kind_of_lift failed
        exact same ▸ Repository.kind_of_addTombstone failed ▸ engine
      · cases rest
    · cases rest

/-! ## Looking for an object -/

/-- The objects have the same id and the same version. -/
structure SameObject (kind : Kind) (body other : kind.Body) : Prop where
  id : kind.id body = kind.id other
  version : kind.version body = kind.version other

theorem SameObject.symm {kind : Kind} {body other : kind.Body} (same : SameObject kind body other) :
    SameObject kind other body := ⟨same.id.symm, same.version.symm⟩

theorem SameObject.trans {kind : Kind} {first second third : kind.Body}
    (same : SameObject kind first second) (other : SameObject kind second third) :
    SameObject kind first third := ⟨same.id.trans other.id, same.version.trans other.version⟩

theorem answer_mustGet (kind : Kind) (id : String) (handle : Handle) :
    (Work.run (mustGet kind id).run handle).1 =
      match handle.get kind id with
      | .ok (some body) => .ok body
      | .ok none => .error (.notFound ⟨kind, id⟩)
      | .error cause => .error cause := by
  rw [mustGet, run_bind]
  change (Work.run (ExceptT.bindCont _ (handle.get kind id)) handle).1 = _
  rcases handle.get kind id with _ | _ | _ <;> rfl

/-- **Under an address both find the same object, or none**, unless one of them cannot read it. -/
theorem sees_mustGet {handle other : Handle} (same : handle.SameShape other) (kind : Kind)
    (id : String) :
    Sees (SameObject kind) ErrorKind.Unreadable (Work.run (mustGet kind id).run handle).1
      (Work.run (mustGet kind id).run other).1 := by
  have missing {handle : Handle} (vacant : handle.content.row? ⟨kind, id⟩ = none) :
      ∃ cause, (Work.run (mustGet kind id).run handle).1 = .error cause := by
    rw [answer_mustGet]
    rcases asked : handle.get kind id with cause | _ | body
    · exact ⟨_, rfl⟩
    · exact ⟨_, rfl⟩
    · obtain ⟨row, found, _⟩ := Handle.get_eq_some asked
      cases vacant.symm.trans found
  have present {handle : Handle} {row : Row} (found : handle.content.row? ⟨kind, id⟩ = some row) :
      (Work.run (mustGet kind id).run handle).1 = Handle.readRow kind id row := by
    rw [answer_mustGet, Handle.get_of_row found]
    cases Handle.readRow kind id row <;> rfl
  cases found : handle.content.row? ⟨kind, id⟩ with
  | none =>
      obtain ⟨cause, failed⟩ := missing found
      obtain ⟨cause', failed'⟩ := missing (same.content.row?_eq_none found)
      rw [failed, failed']
      exact .neither cause cause'
  | some row =>
      obtain ⟨row', found', shape⟩ := same.content.exists_row found
      rw [present found, present found']
      cases read : Handle.readRow kind id row with
      | error cause =>
          cases read' : Handle.readRow kind id row' with
          | error other => exact .neither cause other
          | ok body' => exact .second body' (Handle.unreadable_of_readRow read)
      | ok body =>
          cases read' : Handle.readRow kind id row' with
          | error cause => exact .first body (Handle.unreadable_of_readRow read')
          | ok body' =>
              refine .both ⟨shape.id read read', ?_⟩
              rw [Handle.version_of_readRow read, Handle.version_of_readRow read', shape.version]

/-- Works that have to find an object first. -/
theorem Shaped.mustGet {β β' : Type} {kind : Kind} {id : String}
    {next : kind.Body → Transaction β} {next' : kind.Body → Transaction β'}
    (rest : ∀ body body', SameObject kind body body' → Shaped (next body) (next' body'))
    (traceless : ∀ body, (next body).Traceless ErrorKind.Unreadable)
    (traceless' : ∀ body, (next' body).Traceless ErrorKind.Unreadable) :
    Shaped (Transaction.mustGet kind id >>= next) (Transaction.mustGet kind id >>= next') :=
  Shaped.look (Graph.reads_mustGet kind id) (Graph.reads_mustGet kind id)
    (fun same => sees_mustGet same kind id) rest traceless traceless'

end Transaction

/-! ## Requests -/

/-- The requests are the same but for what they say about objects. -/
inductive Request.SameShape : Request → Request → Prop
  | same (request : Request) : SameShape request request
  | createWorkspace (name other : String) : SameShape (.createWorkspace name) (.createWorkspace other)
  | createTab (workspaceId name other : String) :
      SameShape (.createTab workspaceId name) (.createTab workspaceId other)
  | createBlock (tabId : String) (definition other : BlockDefinition)
      (options options' : Option RuntimeOptions) :
      SameShape (.createBlock tabId definition options) (.createBlock tabId other options')

namespace Graph

open Transaction

theorem alongside_createWorkspace (name other : String) :
    Alongside (fun workspace workspace' => workspace.id = workspace'.id)
      (createWorkspace name) (createWorkspace other) := by
  refine Alongside.draw.bind fun id id' same => ?_
  have ids : Kind.workspace.id (Workspace.new id name) = Kind.workspace.id (Workspace.new id' other) :=
    same
  exact Alongside.insert ids

/-- Stores a new object and lists it: what is left to do once its owner is found. -/
def takeIn {ownerKind childKind : Kind} (build : String → childKind.Body)
    (list : ownerKind.Body → childKind.Body → ownerKind.Body) (owner : ownerKind.Body) :
    Transaction childKind.Body := do
  let id ← draw
  let child ← Transaction.ask (.insert childKind (build id))
  let _ ← Transaction.ask (.update ownerKind (list owner child))
  return child

section

variable {ownerKind childKind : Kind} {build build' : String → childKind.Body}
  {list : ownerKind.Body → childKind.Body → ownerKind.Body}

theorem alongside_takeIn {owner owner' : ownerKind.Body}
    (ids : ∀ id, childKind.id (build id) = childKind.id (build' id))
    (listed : ∀ child child', SameObject ownerKind (list owner child) (list owner' child')) :
    Alongside (fun _ _ => True) (takeIn build list owner) (takeIn build' list owner') := by
  refine Alongside.add childKind build build' ids fun child child' _ => ?_
  have same := listed child child'
  exact (Alongside.update same.id same.version).bind fun _ _ _ => Alongside.pure trivial

theorem spares_takeIn (owner : ownerKind.Body) :
    (takeIn build list owner).Spares ErrorKind.Unreadable := by
  refine spares_draw.bind fun id => ?_
  refine (spares_insert _ _ nofun nofun).bind fun child => ?_
  exact (spares_update _ _ nofun nofun nofun).bind fun _ => spares_pure child

end

/-- **A new object is stored and listed by its owner**, whatever it is and whatever else the owner
lists. -/
theorem shaped_takeIn (ownerKind childKind : Kind) (build build' : String → childKind.Body)
    (list : ownerKind.Body → childKind.Body → ownerKind.Body) (ownerId : String)
    (ids : ∀ id, childKind.id (build id) = childKind.id (build' id))
    (owners : ∀ owner child, SameObject ownerKind (list owner child) owner) :
    Shaped (mustGet ownerKind ownerId >>= takeIn build list)
      (mustGet ownerKind ownerId >>= takeIn build' list) := by
  refine Shaped.mustGet (fun owner owner' same => ?_) (fun owner => (spares_takeIn owner).traceless)
    fun owner => (spares_takeIn owner).traceless
  have listed (child child' : childKind.Body) :
      SameObject ownerKind (list owner child) (list owner' child') :=
    ((owners owner child).trans same).trans (owners owner' child').symm
  exact (alongside_takeIn ids listed).shaped

theorem shaped_createTab (workspaceId name other : String) :
    Shaped (createTab workspaceId name) (createTab workspaceId other) :=
  (shaped_takeIn .workspace .tab (Tab.new · name) (Tab.new · other)
    (fun workspace tab => { workspace with tabIds := workspace.tabIds ++ [tab.id] }) workspaceId
    (fun _ => rfl) fun _ _ => ⟨rfl, rfl⟩).nested

theorem shaped_createBlock (tabId : String) (definition other : BlockDefinition)
    (options options' : Option RuntimeOptions) :
    Shaped (createBlock tabId definition options) (createBlock tabId other options') :=
  (shaped_takeIn .tab .block (Block.new · definition options) (Block.new · other options')
    (fun tab block => { tab with blockIds := tab.blockIds ++ [block.id] }) tabId
    (fun _ => rfl) fun _ _ => ⟨rfl, rfl⟩).nested

/-- Takes a block out of a tab and deletes it: what is left to do once the tab lists the block. -/
def removeBlock (blockId : String) (tab : Tab) : Transaction Unit := do
  let _ ← Transaction.ask
    (.update .tab { tab with blockIds := tab.blockIds.filter (· != blockId) })
  let _ ← Transaction.ask (.delete .block blockId)
  return ()

theorem alongside_removeBlock {tab tab' : Tab} (same : SameObject .tab tab tab')
    (blockId : String) :
    Alongside (fun _ _ => True) (removeBlock blockId tab) (removeBlock blockId tab') := by
  have stored : SameObject .tab
      { tab with blockIds := tab.blockIds.filter (· != blockId) }
      { tab' with blockIds := tab'.blockIds.filter (· != blockId) } := ⟨same.id, same.version⟩
  refine (Alongside.update stored.id stored.version).bind fun _ _ _ => ?_
  exact (Alongside.delete .block blockId).bind fun _ _ _ => Alongside.pure trivial

theorem traceless_removeBlock {kinds : ErrorKind → Prop} (engine : ¬kinds .engine)
    (blockId : String) (tab : Tab) : (removeBlock blockId tab).Traceless kinds :=
  (traceless_update .tab _).bind fun _ =>
    (spares_delete .block blockId engine).bind fun _ => spares_pure ()

theorem shaped_deleteBlock (tabId blockId : String) :
    Shaped (deleteBlock tabId blockId) (deleteBlock tabId blockId) := by
  have unreadable : ¬ErrorKind.Unreadable .engine := nofun
  refine Shaped.nested (Shaped.mustGet (fun tab tab' same => ?_) (fun tab => ?_) fun tab => ?_)
  · exact Shaped.refusing (alongside_removeBlock same blockId).shaped
      (traceless_removeBlock nofun blockId tab) (traceless_removeBlock nofun blockId tab')
  · exact (traceless_removeBlock unreadable blockId tab).refusing
  · exact (traceless_removeBlock unreadable blockId tab).refusing

/-- Stores an object: what is left to do once everything else is found. -/
theorem alongside_store {kind : Kind} {body other : kind.Body}
    (same : SameObject kind body other) :
    Alongside (fun _ _ => True) (Transaction.ask (.update kind body) >>= fun _ => pure ())
      (Transaction.ask (.update kind other) >>= fun _ => pure ()) :=
  (Alongside.update same.id same.version).bind fun _ _ _ => Alongside.pure trivial

theorem traceless_store {kinds : ErrorKind → Prop} (kind : Kind) (body : kind.Body) :
    Traceless kinds (Transaction.ask (.update kind body) >>= fun _ => pure ()) :=
  (traceless_update kind body).bind fun _ => spares_pure ()

theorem shaped_setActiveTab (windowId tabId : String) :
    Shaped (setActiveTab windowId tabId) (setActiveTab windowId tabId) := by
  refine Shaped.nested (Shaped.mustGet (fun window window' same => ?_) (fun window => ?_)
    fun window => ?_)
  · refine Shaped.mustGet (fun tab tab' _ => ?_) (fun tab => traceless_store .window _) fun tab =>
      traceless_store .window _
    have shown : SameObject .window { window with activeTabId := tab.id }
        { window' with activeTabId := tab'.id } := ⟨same.id, same.version⟩
    exact (alongside_store shown).shaped
  · exact (reads_mustGet .tab tabId).traceless_bind fun tab => traceless_store .window _
  · exact (reads_mustGet .tab tabId).traceless_bind fun tab => traceless_store .window _

theorem shaped_setActiveBlock (windowId tabId blockId : String) :
    Shaped (setActiveBlock windowId tabId blockId) (setActiveBlock windowId tabId blockId) := by
  refine Shaped.nested (Shaped.mustGet (fun window window' same => ?_) (fun window => ?_)
    fun window => ?_)
  · refine Shaped.mustGet (fun tab tab' _ => ?_) (fun tab => (traceless_store .window _).allowing)
      fun tab => (traceless_store .window _).allowing
    have focused : SameObject .window
        { window with activeBlocks := window.activeBlocks.insert tab.id blockId }
        { window' with activeBlocks := window'.activeBlocks.insert tab'.id blockId } :=
      ⟨same.id, same.version⟩
    exact Shaped.allowing (alongside_store focused).shaped (traceless_store .window _)
      (traceless_store .window _)
  · exact (reads_mustGet .tab tabId).traceless_bind fun tab => (traceless_store .window _).allowing
  · exact (reads_mustGet .tab tabId).traceless_bind fun tab => (traceless_store .window _).allowing

/-- **The first data is added on both sides or on neither**, and then the clients have the same
id. -/
theorem alongside_seed : Alongside (fun client client' => client.map Client.id = client'.map Client.id)
    seed seed := by
  refine (Alongside.count .client).bind fun clients clients' same => ?_
  subst same
  split
  · exact Alongside.pure rfl
  · refine Alongside.add .tab (Tab.new · firstTabName) (Tab.new · firstTabName) (fun _ => rfl)
      fun tab tab' _ => ?_
    refine Alongside.add .workspace
      (fun id => { Workspace.new id firstWorkspaceName with tabIds := [Tab.id tab] })
      (fun id => { Workspace.new id firstWorkspaceName with tabIds := [Tab.id tab'] })
      (fun _ => rfl) fun workspace workspace' _ => ?_
    refine Alongside.add .window
      (Window.new · (Workspace.id workspace) (Tab.id tab) firstWindowPosition firstWindowSize)
      (Window.new · (Workspace.id workspace') (Tab.id tab') firstWindowPosition firstWindowSize)
      (fun _ => rfl) fun window window' _ => ?_
    refine Alongside.add .client (Client.new · (Window.id window)) (Client.new · (Window.id window'))
      (fun _ => rfl) fun client client' ids => ?_
    exact Alongside.pure (congrArg some ids)

end Graph

/-- **A request keeps the shape where it ends alike.** -/
theorem Request.SameShape.shaped {request other : Request} (shape : request.SameShape other) :
    Transaction.Shaped request.answer other.answer := by
  have single (name name' : String) :=
    (Graph.alongside_createWorkspace name name').shaped
  cases shape with
  | createWorkspace name other => exact (single name other).map _ _
  | createTab workspaceId name other => exact (Graph.shaped_createTab workspaceId name other).map _ _
  | createBlock tabId definition other options options' =>
      exact (Graph.shaped_createBlock tabId definition other options options').map _ _
  | same request =>
      cases request with
      | createWorkspace name => exact (single name name).map _ _
      | createTab workspaceId name =>
          exact (Graph.shaped_createTab workspaceId name name).map _ _
      | createBlock tabId definition options =>
          exact (Graph.shaped_createBlock tabId definition definition options options).map _ _
      | deleteBlock tabId blockId =>
          exact (Graph.shaped_deleteBlock tabId blockId).map (fun _ => Response.done) _
      | setActiveTab windowId tabId =>
          exact (Graph.shaped_setActiveTab windowId tabId).map (fun _ => Response.done) _
      | setActiveBlock windowId tabId blockId =>
          exact (Graph.shaped_setActiveBlock windowId tabId blockId).map (fun _ => Response.done) _
      | getClient => exact (Graph.reads_getClient.shaped Graph.reads_getClient).map _ _
      | getWindowView windowId =>
          have reads := Graph.reads_getWindowView windowId
          exact (reads.shaped reads).map _ _
      | getMainView => exact (Graph.reads_getMainView.shaped Graph.reads_getMainView).map _ _

end ScopedStore
