import ScopedStore.Proofs.Graph.Ownership
import ScopedStore.Proofs.Graph.Steps
import ScopedStore.Proofs.Pending

/-!
# What a request comes to

What a request answers and what it writes is a function of the objects that it finds and of the id
that is drawn next (`Objects.createTab` and its like): it looks for the objects that have to exist,
one after the other, and for the place of a new one, and then it writes one or two rows. On a handle
that is ready for it the request comes to exactly that (`Graph.comesTo_createTab` and its like). It
succeeds, and nothing is different but the rows that it has written, their pending changes and the
tombstone of what it has deleted (`Handle.Effect`); or it fails with the first thing that is missing
or in the way, and nothing is different at all.

A handle is ready (`Handle.Ready`) where it shows whole tables, every listed object exists, and
nothing that it remembers of undone updates leads the version of a row away from that row.
-/

set_option autoImplicit false

namespace ScopedStore

/-! ## Answers and writes -/

namespace Objects

/-- The place of a new object, which has to be free. -/
def reserve (objects : Objects) (ref : Ref) : Except StoreError Unit :=
  if (objects ref).isSome then .error (.duplicateKey ref) else .ok ()

variable (objects : Objects)

/-- A new workspace is stored. -/
def createWorkspace (id name : String) : Except StoreError (Workspace × List Write) := do
  objects.reserve ⟨.workspace, id⟩
  return (.stored id name, [.inserted ⟨.workspace, Workspace.stored id name⟩])

/-- A new tab is stored, and its workspace lists it. -/
def createTab (id workspaceId name : String) : Except StoreError (Tab × List Write) := do
  let workspace : Workspace ← objects.need .workspace workspaceId
  objects.reserve ⟨.tab, id⟩
  return (.stored id name,
    [.inserted ⟨.tab, Tab.stored id name⟩, .updated ⟨.workspace, workspace.listing id⟩])

/-- A new block is stored, and its tab lists it. -/
def createBlock (id tabId : String) (definition : BlockDefinition)
    (options : Option RuntimeOptions) : Except StoreError (Block × List Write) := do
  let tab : Tab ← objects.need .tab tabId
  objects.reserve ⟨.block, id⟩
  return (.stored id definition options,
    [.inserted ⟨.block, Block.stored id definition options⟩, .updated ⟨.tab, tab.listing id⟩])

/-- A tab does not list the block any more, and the block is deleted. -/
def deleteBlock (tabId blockId : String) : Except StoreError (Unit × List Write) := do
  let tab : Tab ← objects.need .tab tabId
  if blockId ∈ tab.blockIds then
    return ((), [.updated ⟨.tab, tab.unlisting blockId⟩, .deleted ⟨.block, blockId⟩])
  else
    throw (.notFound ⟨.block, blockId⟩)

/-- A window shows another tab. -/
def setActiveTab (windowId tabId : String) : Except StoreError (Unit × List Write) := do
  let window : Window ← objects.need .window windowId
  let tab : Tab ← objects.need .tab tabId
  return ((), [.updated ⟨.window, window.showing tab.id⟩])

/-- Another block of a tab is the active one in a window. -/
def setActiveBlock (windowId tabId blockId : String) : Except StoreError (Unit × List Write) := do
  let window : Window ← objects.need .window windowId
  let tab : Tab ← objects.need .tab tabId
  if blockId ∈ tab.blockIds then
    return ((), [.updated ⟨.window, window.focusing tab.id blockId⟩])
  else
    throw (.notFound ⟨.block, blockId⟩)

variable {objects}

theorem reserve_of_free {ref : Ref} (free : objects ref = none) : objects.reserve ref = .ok () := by
  rw [reserve, free]
  rfl

theorem reserve_of_taken {ref : Ref} (taken : (objects ref).isSome) :
    objects.reserve ref = .error (.duplicateKey ref) := by
  rw [reserve, if_pos taken]

end Objects

/-! ## Effects -/

/-- **Nothing is different but what was written**: rows, tombstones and, where changes are recorded,
one pending change for every row, which takes the place of an earlier one of that row. -/
structure Handle.Effect (before : Handle) (writes : List Write) (after : Handle) : Prop where
  content : after.content = writes.foldl (Write.apply before.now) before.content
  written : ∀ write ∈ writes, after.content.row? write.ref = write.row?
  untouched : ∀ ref, (∀ write ∈ writes, ref ≠ write.ref) →
    after.content.row? ref = before.content.row? ref
  buried : ∀ ref, after.content.Buried ref ↔ before.content.Buried ref ∨ .deleted ref ∈ writes
  pending : before.tracked = true → ∀ write ∈ writes,
    after.allPending.get? write.ref = some write.change
  unchanged : ∀ ref, (before.tracked = true → ∀ write ∈ writes, ref ≠ write.ref) →
    after.allPending.get? ref = before.allPending.get? ref
  depth : after.depth = before.depth

namespace Handle.Effect

variable {before after : Handle} {write : Write} {writes : List Write}

theorem refl (handle : Handle) : handle.Effect [] handle where
  content := rfl
  written _ member := nomatch member
  untouched _ _ := rfl
  buried ref := by simp
  pending _ _ member := nomatch member
  unchanged _ _ := rfl
  depth := rfl

/-- **One more row is written first**, at an address of its own. -/
theorem cons (fits : write.Fits before.content) (apart : ∀ other ∈ writes, write.ref ≠ other.ref)
    (effect : (before.wrote write).Effect writes after) :
    before.Effect (write :: writes) after where
  content := by
    have now : (before.wrote write).now = before.now := by cases write <;> rfl
    rw [effect.content, now, content_wrote]
    rfl
  written := by
    refine List.forall_mem_cons.2 ⟨?_, effect.written⟩
    rw [effect.untouched _ apart, content_wrote, Write.row?_apply_self fits]
  untouched ref others := by
    obtain ⟨first, rest⟩ := List.forall_mem_cons.1 others
    rw [effect.untouched ref rest, content_wrote, Write.row?_apply fits, if_neg first]
  buried ref := by
    rw [effect.buried, content_wrote, Write.buried_apply_iff fits, List.mem_cons, or_assoc]
    exact or_congr_right (or_congr_left eq_comm)
  pending recorded := by
    have still : (before.wrote write).tracked = true :=
      (Handle.Does.tracked_eq (.wrote fits)).trans recorded
    refine List.forall_mem_cons.2 ⟨?_, effect.pending still⟩
    rw [effect.unchanged _ fun _ => apart, get?_allPending_wrote, if_pos ⟨recorded, rfl⟩]
  unchanged ref others := by
    have same : (before.wrote write).tracked = before.tracked :=
      Handle.Does.tracked_eq (.wrote fits)
    rw [effect.unchanged ref fun recorded other member =>
        others (same ▸ recorded) other (List.mem_cons_of_mem _ member),
      get?_allPending_wrote, if_neg]
    exact fun both => others both.1 write List.mem_cons_self both.2
  depth := effect.depth.trans (before.depth_wrote write)

/-- Drawing an id is no effect. -/
theorem of_drawn (effect : before.drawn.Effect writes after) : before.Effect writes after :=
  ⟨effect.content, effect.written, effect.untouched, effect.buried, effect.pending,
    effect.unchanged, effect.depth⟩

/-- **What is done in a scope that is kept is done outside.** -/
theorem of_kept (effect : before.openScope.Effect writes after) :
    before.Effect writes after.kept where
  content := effect.content
  written := effect.written
  untouched := effect.untouched
  buried := effect.buried
  pending recorded := by
    rw [allPending_kept]
    exact effect.pending ((Handle.Does.tracked_eq (.opened before)).trans recorded)
  unchanged ref others := by
    rw [allPending_kept, ← allPending_openScope before]
    exact effect.unchanged ref fun recorded =>
      others ((Handle.Does.tracked_eq (.opened before)).symm.trans recorded)
  depth := by
    have inside : after.depth = before.depth + 1 := effect.depth
    have outside : after.kept.depth = after.depth - 1 := rfl
    omega

end Handle.Effect

theorem Handle.SameData.refl (handle : Handle) : handle.SameData handle :=
  ⟨rfl, rfl, fun _ => rfl, rfl⟩

/-- The failure is that an object is missing, or that there is one in the way. -/
def StoreError.Refuses (cause : StoreError) : Prop :=
  ∃ ref, cause = .notFound ref ∨ cause = .duplicateKey ref

/-- **What work comes to**: it gives the value, and its effect are the writes, or it fails for the
cause, and nothing is different. -/
def Transaction.ComesTo {α : Type} (work : Transaction α) (handle : Handle) :
    Except StoreError (α × List Write) → Prop
  | .ok (value, writes) => ∃ after, work.Gives handle value after ∧ handle.Effect writes after
  | .error cause => cause.Refuses ∧ (Work.run work.run handle).1 = .error cause ∧
      handle.SameData (Work.run work.run handle).2

/-! ## Ready handles -/

/-- What is remembered of undone updates does not lead the version of a row away from it. Blocks
are left out: they may be deleted and stored again, and are never replaced. -/
def Handle.Straight (handle : Handle) : Prop :=
  ∀ ref row, ref.kind ≠ .block → handle.content.row? ref = some row →
    handle.expectedVersion ref row.version = row.version

/-- The handle is ready for every request, and these are the objects that it shows. -/
structure Handle.Ready (handle : Handle) (objects : Objects) : Prop where
  lockstep : handle.Lockstep
  complete : handle.content.Complete
  straight : handle.Straight
  holds : handle.content.Holds objects
  fit : handle.content.VersionsFit
  owned : objects.Owned

namespace Handle.Ready

variable {handle : Handle} {objects : Objects}

theorem opened (ready : handle.Ready objects) : handle.openScope.Ready objects :=
  ⟨(Does.opened handle).lockstep ready.lockstep, ready.complete, ready.straight, ready.holds,
    ready.fit, ready.owned⟩

/-- What was found has its row. -/
theorem row (ready : handle.Ready objects) {record : Record}
    (found : objects record.ref = some record) :
    handle.content.row? record.ref = some record.row := by
  rw [ready.holds.row, found]
  rfl

end Handle.Ready

namespace Transaction

variable {α : Type} {handle : Handle} {objects : Objects} {kind : Kind}
  {expected : Except StoreError (α × List Write)}

/-! ## Steps -/

theorem ComesTo.of_run {work other : Transaction α}
    (same : Work.run work.run handle = Work.run other.run handle)
    (comesTo : other.ComesTo handle expected) : work.ComesTo handle expected := by
  match expected with
  | .ok (value, writes) =>
      obtain ⟨after, given, effect⟩ := comesTo
      exact ⟨after, same.trans given, effect⟩
  | .error cause =>
      obtain ⟨refuses, answer, left⟩ := comesTo
      exact ⟨refuses, same ▸ answer, same ▸ left⟩

theorem comesTo_pure (value : α) (handle : Handle) :
    (pure value : Transaction α).ComesTo handle (.ok (value, [])) :=
  ⟨handle, gives_pure.2 ⟨rfl, rfl⟩, .refl handle⟩

theorem comesTo_throw {cause : StoreError} (refuses : cause.Refuses) (handle : Handle) :
    (throw cause : Transaction α).ComesTo handle (.error cause) :=
  ⟨refuses, rfl, .refl handle⟩

theorem comesTo_of_failed {work : Transaction α} {cause : StoreError} {after : Handle}
    (refuses : cause.Refuses) (failed : Work.run work.run handle = (.error cause, after))
    (same : handle.SameData after) : work.ComesTo handle (.error cause) :=
  ⟨refuses, congrArg Prod.fst failed, failed ▸ same⟩

/-- **Work in a scope of its own comes to what it comes to inside.** -/
theorem comesTo_nested (lockstep : handle.Lockstep) {work : Transaction α}
    (inside : work.ComesTo handle.openScope expected) : work.nested.ComesTo handle expected := by
  match expected with
  | .ok (value, writes) =>
      obtain ⟨after, given, effect⟩ := inside
      exact ⟨after.kept, (gives_nested lockstep).2 ⟨after, given, rfl⟩, effect.of_kept⟩
  | .error cause =>
      obtain ⟨refuses, answer, _⟩ := inside
      obtain ⟨same, undone⟩ := lockstep.nested_leaves_no_trace work
      exact ⟨refuses, same.trans answer, undone cause answer⟩

/-- An object that has to exist is looked for first. -/
theorem comesTo_mustGet (ready : handle.Ready objects) (noBlock : kind ≠ .block) {id : String}
    {next : kind.Body → Transaction α} {after : kind.Body → Except StoreError (α × List Write)}
    (rest : ∀ body : kind.Body, objects (Record.ref ⟨kind, body⟩) = some ⟨kind, body⟩ →
      (next body).ComesTo handle (after body)) :
    (mustGet kind id >>= next).ComesTo handle (objects.need kind id >>= after) := by
  have read := run_mustGet ready.holds ready.fit noBlock (ready.complete.tables kind) id
  cases found : objects.find kind id with
  | some body =>
      rw [Objects.need_of_some found] at read ⊢
      refine .of_run (run_bind_of_ok read) (rest body ?_)
      have held := Objects.find_eq_some.1 found
      rw [ready.holds.address held]
      exact held
  | none =>
      rw [Objects.need_of_none found] at read ⊢
      exact comesTo_of_failed ⟨_, .inl rfl⟩ (run_bind_of_error read) (.refl handle)

/-- An object is replaced first. -/
theorem comesTo_update {body : kind.Body} {row : Row} {next : kind.Body → Transaction α}
    {value : α} {writes : List Write} (found : handle.content.row? (kind.ref body) = some row)
    (same : row.version = kind.version body)
    (straight : handle.expectedVersion (kind.ref body) row.version = row.version)
    (apart : ∀ write ∈ writes, kind.ref body ≠ write.ref)
    (rest : let stored := kind.withVersion body (kind.version body + 1)
      (next stored).ComesTo (handle.wrote (.updated ⟨kind, stored⟩)) (.ok (value, writes))) :
    (ask (.update kind body) >>= next).ComesTo handle
      (.ok (value, .updated ⟨kind, kind.withVersion body (kind.version body + 1)⟩ :: writes)) := by
  obtain ⟨after, given, effect⟩ := rest
  have address : Record.ref ⟨kind, kind.withVersion body (kind.version body + 1)⟩ =
      kind.ref body := kind.ref_withVersion body _
  have updated : Work.run (ask (.update kind body)).run handle = _ :=
    run_update_of_row found same (same ▸ straight)
  have fits : (Write.updated ⟨kind, kind.withVersion body (kind.version body + 1)⟩).Fits
      handle.content :=
    .updated (address ▸ found) ((kind.version_withVersion body _).trans (same ▸ rfl))
  refine ⟨after, (run_bind_of_ok updated).trans given, .cons fits ?_ effect⟩
  rw [Write.ref, address]
  exact apart

/-- An object is deleted first. -/
theorem comesTo_delete {id : String} {next : Bool → Transaction α} {value : α}
    {writes : List Write} (present : (handle.content.row? ⟨kind, id⟩).isSome)
    (graves : handle.content.tombstones.isSome)
    (apart : ∀ write ∈ writes, (⟨kind, id⟩ : Ref) ≠ write.ref)
    (rest : (next true).ComesTo (handle.wrote (.deleted ⟨kind, id⟩)) (.ok (value, writes))) :
    (ask (.delete kind id) >>= next).ComesTo handle
      (.ok (value, .deleted ⟨kind, id⟩ :: writes)) := by
  obtain ⟨after, given, effect⟩ := rest
  obtain ⟨row, found⟩ := Option.isSome_iff_exists.1 present
  obtain ⟨tombstones, held⟩ := Option.isSome_iff_exists.1 graves
  have deleted : Work.run (ask (.delete kind id)).run handle = _ :=
    run_delete_of_row present graves
  exact ⟨after, (run_bind_of_ok deleted).trans given, .cons (.deleted found held) apart effect⟩

/-- A new object is stored first, under the next id. -/
theorem comesTo_new (ready : handle.Ready objects) (kind : Kind) (build : String → kind.Body)
    {next : kind.Body → Transaction α} {value : α} {writes : List Write}
    (names : ∀ id, kind.id (build id) = id)
    (apart : ∀ write ∈ writes, (⟨kind, handle.ids.draw.1⟩ : Ref) ≠ write.ref)
    (rest : let new := kind.withVersion (build handle.ids.draw.1) 1
      (next new).ComesTo (handle.drawn.wrote (.inserted ⟨kind, new⟩)) (.ok (value, writes))) :
    (draw >>= fun id => ask (.insert kind (build id)) >>= next).ComesTo handle
      (objects.reserve ⟨kind, handle.ids.draw.1⟩ >>= fun _ => pure (value,
        .inserted ⟨kind, kind.withVersion (build handle.ids.draw.1) 1⟩ :: writes)) := by
  have address : kind.ref (build handle.ids.draw.1) = ⟨kind, handle.ids.draw.1⟩ :=
    congrArg (Ref.mk kind) (names _)
  have newAddress : Record.ref ⟨kind, kind.withVersion (build handle.ids.draw.1) 1⟩ =
      ⟨kind, handle.ids.draw.1⟩ := (kind.ref_withVersion _ 1).trans address
  have row := ready.holds.row ⟨kind, handle.ids.draw.1⟩
  have tabled := ready.complete.tables kind
  cases there : objects ⟨kind, handle.ids.draw.1⟩ with
  | none =>
      rw [Objects.reserve_of_free there]
      obtain ⟨after, given, effect⟩ := rest
      have free : handle.content.row? (kind.ref (build handle.ids.draw.1)) = none := by
        rw [address, row, there]
        rfl
      obtain ⟨table, found⟩ := Option.isSome_iff_exists.1 tabled
      have fits : (Write.inserted ⟨kind, kind.withVersion (build handle.ids.draw.1) 1⟩).Fits
          handle.drawn.content :=
        .inserted found (newAddress ▸ address ▸ free) (kind.version_withVersion _ 1)
      refine ⟨after, (run_new_of_free tabled free).trans given, .of_drawn (.cons fits ?_ effect)⟩
      rw [Write.ref, newAddress]
      exact apart
  | some record =>
      rw [Objects.reserve_of_taken (Option.isSome_of_mem there)]
      have taken : (handle.content.row? (kind.ref (build handle.ids.draw.1))).isSome := by
        rw [address, row, there]
        rfl
      refine comesTo_of_failed ⟨_, .inr rfl⟩ (address ▸ run_new_of_taken taken) ?_
      exact Handle.sameData_of_frames rfl rfl rfl

/-- An object that was found is replaced first. -/
theorem comesTo_replacement (ready : handle.Ready objects) {held : kind.Body}
    (found : objects (Record.ref ⟨kind, held⟩) = some ⟨kind, held⟩) (noBlock : kind ≠ .block)
    (body : kind.Body) (ids : kind.id body = kind.id held)
    (versions : kind.version body = kind.version held)
    {next : kind.Body → Transaction α} {value : α} {writes : List Write}
    (apart : ∀ write ∈ writes, Record.ref ⟨kind, held⟩ ≠ write.ref)
    (rest : let stored := kind.withVersion body (kind.version held + 1)
      (next stored).ComesTo (handle.wrote (.updated ⟨kind, stored⟩)) (.ok (value, writes))) :
    (ask (.update kind body) >>= next).ComesTo handle
      (.ok (value, .updated ⟨kind, kind.withVersion body (kind.version held + 1)⟩ :: writes)) := by
  have address : kind.ref body = Record.ref ⟨kind, held⟩ := congrArg (Ref.mk kind) ids
  have row := ready.row found
  rw [← versions] at rest ⊢
  rw [← address] at row apart
  exact comesTo_update row versions.symm (ready.straight _ _ noBlock row) apart rest

/-- A new object is stored, and an object that was found lists it. -/
theorem comesTo_adoption (ready : handle.Ready objects) (kind owner : Kind)
    (build : String → kind.Body) (list : kind.Body → owner.Body) {holder : owner.Body}
    (found : objects (Record.ref ⟨owner, holder⟩) = some ⟨owner, holder⟩)
    (noBlock : owner ≠ .block) (other : owner ≠ kind) (names : ∀ id, kind.id (build id) = id)
    (ids : ∀ new, owner.id (list new) = owner.id holder)
    (versions : ∀ new, owner.version (list new) = owner.version holder) :
    let new := kind.withVersion (build handle.ids.draw.1) 1
    let listing := owner.withVersion (list new) (owner.version holder + 1)
    (draw >>= fun id => ask (.insert kind (build id)) >>= fun new =>
      ask (.update owner (list new)) >>= fun _ => pure new).ComesTo handle
        (objects.reserve ⟨kind, handle.ids.draw.1⟩ >>= fun _ =>
          pure (new, [.inserted ⟨kind, new⟩, .updated ⟨owner, listing⟩])) := by
  intro new listing
  have address : owner.ref (list new) = Record.ref ⟨owner, holder⟩ :=
    congrArg (Ref.mk owner) (ids new)
  have row := ready.row found
  rw [← address] at row
  refine comesTo_new ready kind build names ?_ ?_
  · exact List.forall_mem_singleton.2 fun same => other (congrArg Ref.kind same).symm
  · have kept : (handle.drawn.wrote (.inserted ⟨kind, new⟩)).content.row?
        (owner.ref (list new)) = some (Record.row ⟨owner, holder⟩) := by
      rw [Handle.content_wrote]
      exact (Database.row?_put_of_kind _ _ other).trans row
    have next : listing = owner.withVersion (list new) (owner.version (list new) + 1) := by
      rw [versions]
    rw [next]
    exact comesTo_update kept (versions new).symm (ready.straight _ _ noBlock row)
      (List.forall_mem_nil _) (comesTo_pure new _)

end Transaction

namespace Graph

open Transaction

/-! ## Requests -/

/-- A list is as long without an id exactly if the id is not in it. -/
theorem length_filter_bne_iff {ids : List String} {id : String} :
    (ids.filter (· != id)).length = ids.length ↔ id ∉ ids := by
  rw [List.length_filter_eq_length_iff]
  constructor
  · exact fun others member => bne_iff_ne.1 (others id member) rfl
  · exact fun missing other member => bne_iff_ne.2 fun same => missing (same ▸ member)

variable {handle : Handle} {objects : Objects} (ready : handle.Ready objects)
include ready

theorem comesTo_createWorkspace (name : String) :
    (createWorkspace name).ComesTo handle (objects.createWorkspace handle.ids.draw.1 name) := by
  have behind : Work.run (createWorkspace name).run handle =
      Work.run (createWorkspace name >>= pure).run handle := by
    rw [run_bind]
    cases Work.run (createWorkspace name).run handle with
    | mk answer after => cases answer <;> rfl
  refine .of_run behind ?_
  exact comesTo_new ready .workspace (fun id => Workspace.new id name) (fun _ => rfl)
    (List.forall_mem_nil _) (comesTo_pure _ _)

theorem comesTo_createTab (workspaceId name : String) :
    (createTab workspaceId name).ComesTo handle
      (objects.createTab handle.ids.draw.1 workspaceId name) := by
  refine comesTo_nested ready.lockstep ?_
  refine comesTo_mustGet ready.opened (by decide) fun workspace found => ?_
  exact comesTo_adoption ready.opened .tab .workspace (fun id => Tab.new id name)
    (fun tab => { workspace with tabIds := workspace.tabIds ++ [tab.id] }) found (by decide)
    (by decide) (fun _ => rfl) (fun _ => rfl) fun _ => rfl

theorem comesTo_createBlock (tabId : String) (definition : BlockDefinition)
    (options : Option RuntimeOptions) :
    (createBlock tabId definition options).ComesTo handle
      (objects.createBlock handle.ids.draw.1 tabId definition options) := by
  refine comesTo_nested ready.lockstep ?_
  refine comesTo_mustGet ready.opened (by decide) fun tab found => ?_
  exact comesTo_adoption ready.opened .block .tab (fun id => Block.new id definition options)
    (fun block => { tab with blockIds := tab.blockIds ++ [block.id] }) found (by decide)
    (by decide) (fun _ => rfl) (fun _ => rfl) fun _ => rfl

theorem comesTo_deleteBlock (tabId blockId : String) :
    (deleteBlock tabId blockId).ComesTo handle (objects.deleteBlock tabId blockId) := by
  refine comesTo_nested ready.lockstep ?_
  refine comesTo_mustGet ready.opened (by decide) fun tab found => ?_
  dsimp only
  by_cases listed : blockId ∈ tab.blockIds
  · rw [if_pos listed, if_neg fun same => length_filter_bne_iff.1 same listed]
    -- Every listed block exists, so there is a row to delete.
    have child : (⟨.block, blockId⟩ : Ref) ∈ objects.children (Record.ref ⟨.tab, tab⟩) :=
      Objects.children_of_some found ▸ List.mem_map_of_mem listed
    have present : (handle.content.row? ⟨.block, blockId⟩).isSome :=
      ready.holds.isSome _ ▸ ready.owned.present child
    refine comesTo_replacement ready.opened found (by decide)
      { tab with blockIds := tab.blockIds.filter (· != blockId) } rfl rfl ?_ ?_
    · exact List.forall_mem_singleton.2 nofun
    · refine comesTo_delete ?_ ?_ (List.forall_mem_nil _) (comesTo_pure () _)
      · have kept (stored : Tab) : (handle.content.put ⟨.tab, stored⟩).row? ⟨.block, blockId⟩ =
            handle.content.row? ⟨.block, blockId⟩ :=
          Database.row?_put_of_kind _ _ fun same => nomatch same
        rw [Handle.content_wrote]
        exact (congrArg Option.isSome (kept _)).trans present
      · rw [Handle.content_wrote, Write.isSome_tombstones_apply]
        exact ready.complete.tombstones
  · rw [if_neg listed, if_pos (length_filter_bne_iff.2 listed)]
    exact comesTo_throw ⟨_, .inl rfl⟩ _

theorem comesTo_setActiveTab (windowId tabId : String) :
    (setActiveTab windowId tabId).ComesTo handle (objects.setActiveTab windowId tabId) := by
  refine comesTo_nested ready.lockstep ?_
  refine comesTo_mustGet ready.opened (by decide) fun window found => ?_
  refine comesTo_mustGet ready.opened (by decide) fun tab shown => ?_
  exact comesTo_replacement ready.opened found (by decide) { window with activeTabId := tab.id }
    rfl rfl (List.forall_mem_nil _) (comesTo_pure () _)

theorem comesTo_setActiveBlock (windowId tabId blockId : String) :
    (setActiveBlock windowId tabId blockId).ComesTo handle
      (objects.setActiveBlock windowId tabId blockId) := by
  refine comesTo_nested ready.lockstep ?_
  refine comesTo_mustGet ready.opened (by decide) fun window found => ?_
  refine comesTo_mustGet ready.opened (by decide) fun tab shown => ?_
  dsimp only
  by_cases listed : blockId ∈ tab.blockIds
  · rw [if_pos listed, if_pos (List.contains_iff_mem.2 listed)]
    exact comesTo_replacement ready.opened found (by decide)
      { window with activeBlocks := window.activeBlocks.insert tab.id blockId } rfl rfl
      (List.forall_mem_nil _) (comesTo_pure () _)
  · rw [if_neg listed, if_neg fun contained => listed (List.contains_iff_mem.1 contained)]
    exact comesTo_throw ⟨_, .inl rfl⟩ _

end Graph

end ScopedStore
