import ScopedStore.Proofs.Graph.Ownership

/-!
# The graph is whole

Besides the lists of workspaces and tabs, objects name others without owning them: a client names
its main window, and a window names a workspace, a tab and, for some tabs, the block that was last
active there. All of these exist, except that an active block may have been deleted meanwhile;
then it is no longer in the list of its tab, but it has a tombstone (`Objects.Placed`). There is
one client and one window at most, and all of this is what makes the graph whole (`Objects.Whole`).

A window is never without a client, which is why the first data does not add a second window. That
is why more is kept up than is asked for (`Objects.Intact`). Every object that an operation writes
or deletes is one of a few changes that leave the graph intact.
-/

set_option autoImplicit false

namespace ScopedStore

namespace Record

/-- What an object names without listing it, and what has to exist all the same. -/
def named : Record → List Ref
  | ⟨.client, body⟩ => [⟨.window, Client.mainWindowId body⟩]
  | ⟨.window, body⟩ =>
      ⟨.workspace, Window.workspaceId body⟩ :: ⟨.tab, Window.activeTabId body⟩ ::
        (Window.activeBlocks body).entries.map fun entry => ⟨.tab, entry.1⟩
  | _ => []

/-- The active blocks of a window, behind the tabs in which they are active. -/
def active : Record → List (String × String)
  | ⟨.window, body⟩ => (Window.activeBlocks body).entries
  | _ => []

theorem kind_of_named {record : Record} {other : Ref} (member : other ∈ record.named) :
    other.kind ≠ .block := by
  obtain ⟨kind, body⟩ := record
  cases kind with
  | client => exact List.mem_singleton.1 member ▸ nofun
  | window =>
      simp only [named, List.mem_cons, List.mem_map] at member
      rcases member with rfl | rfl | ⟨_, _, rfl⟩ <;> nofun
  | workspace | tab | block => cases member

end Record

/-- There is no more than one object of this kind. -/
def Kind.Single (kind : Kind) : Prop := kind = .client ∨ kind = .window

instance (kind : Kind) : Decidable kind.Single :=
  inferInstanceAs (Decidable (kind = .client ∨ kind = .window))

namespace Objects

variable {objects : Objects} {buried buried' : Ref → Prop} {record owner child : Record}
  {gone : Ref} {seeded : Prop}

/-- What is named exists, but active blocks may have been deleted from their tabs. -/
structure Placed (objects : Objects) (buried : Ref → Prop) : Prop where
  named : ∀ {ref record}, objects ref = some record →
    ∀ other ∈ record.named, (objects other).isSome
  active : ∀ {ref record}, objects ref = some record → ∀ entry ∈ record.active,
    ⟨.block, entry.2⟩ ∈ objects.children ⟨.tab, entry.1⟩ ∨ buried ⟨.block, entry.2⟩
  single : ∀ {kind : Kind}, kind.Single → ∀ {first second}, (objects ⟨kind, first⟩).isSome →
    (objects ⟨kind, second⟩).isSome → first = second

namespace Placed

theorem mono (placed : objects.Placed buried) (more : ∀ ref, buried ref → buried' ref) :
    objects.Placed buried' where
  named := placed.named
  active found entry member := (placed.active found entry member).imp_right (more _)
  single := placed.single

/-- **An object is written** that names what exists; what it no longer lists has a tombstone. -/
theorem put (placed : objects.Placed buried)
    (keeps : ∀ ref ∈ objects.children record.ref, ref ∈ record.children ∨ buried ref)
    (named : ∀ other ∈ record.named, (objects other).isSome)
    (active : ∀ entry ∈ record.active,
      ⟨.block, entry.2⟩ ∈ objects.children ⟨.tab, entry.1⟩ ∨ buried ⟨.block, entry.2⟩)
    (single : record.kind.Single → ∀ id, (objects ⟨record.kind, id⟩).isSome → id = record.id) :
    (objects.put record).Placed buried := by
  have listed {tabId blockId : String}
      (before : ⟨.block, blockId⟩ ∈ objects.children ⟨.tab, tabId⟩ ∨ buried ⟨.block, blockId⟩) :
      ⟨.block, blockId⟩ ∈ (objects.put record).children ⟨.tab, tabId⟩ ∨
        buried ⟨.block, blockId⟩ := by
    rcases before with member | gone
    · rw [children_put]
      split
      · rename_i here
        exact keeps _ (here ▸ member)
      · exact .inl member
    · exact .inr gone
  refine ⟨fun found other member => ?_, fun found entry member => ?_, ?_⟩
  · rcases put_eq_some found with ⟨_, rfl⟩ | ⟨_, before⟩
    · exact isSome_put (named other member)
    · exact isSome_put (placed.named before other member)
  · rcases put_eq_some found with ⟨_, rfl⟩ | ⟨_, before⟩
    · exact listed (active entry member)
    · exact listed (placed.active before entry member)
  · intro kind few first second here there
    have old {id : String} (present : (objects.put record ⟨kind, id⟩).isSome) :
        (kind = record.kind ∧ id = record.id) ∨ (objects ⟨kind, id⟩).isSome := by
      by_cases new : (⟨kind, id⟩ : Ref) = record.ref
      · exact .inl ⟨congrArg Ref.kind new, congrArg Ref.id new⟩
      · exact .inr (by rwa [put_of_ne new] at present)
    rcases old here with ⟨rfl, rfl⟩ | here
    · rcases old there with ⟨_, rfl⟩ | there
      · rfl
      · exact (single few second there).symm
    · rcases old there with ⟨rfl, rfl⟩ | there
      · exact single few first here
      · exact placed.single few here there

/-- Most objects name nobody, and there may be many of them. -/
theorem put_plain (placed : objects.Placed buried)
    (keeps : ∀ ref ∈ objects.children record.ref, ref ∈ record.children ∨ buried ref)
    (many : ¬record.kind.Single) : (objects.put record).Placed buried := by
  have names : record.named = [] ∧ record.active = [] := by
    obtain ⟨kind, body⟩ := record
    cases kind with
    | client => exact absurd (.inl rfl) many
    | window => exact absurd (.inr rfl) many
    | workspace | tab | block => exact ⟨rfl, rfl⟩
  refine placed.put keeps ?_ ?_ fun few => absurd few many
  · simp [names]
  · simp [names]

/-- A block is named by nobody, so it may be deleted. -/
theorem erase (placed : objects.Placed buried) (block : gone.kind = .block) :
    (objects.erase gone).Placed buried := by
  refine ⟨fun found other member => ?_, fun found entry member => ?_, ?_⟩
  · obtain ⟨_, before⟩ := erase_eq_some found
    have noBlock : other ≠ gone := fun same => Record.kind_of_named member (same ▸ block)
    rw [erase_of_ne noBlock]
    exact placed.named before other member
  · obtain ⟨_, before⟩ := erase_eq_some found
    have noBlock : (⟨.tab, entry.1⟩ : Ref) ≠ gone := by
      rintro rfl
      cases block
    rw [children_erase, if_neg noBlock]
    exact placed.active before entry member
  · intro kind few first second here there
    have old {id : String} (present : (objects.erase gone ⟨kind, id⟩).isSome) :
        (objects ⟨kind, id⟩).isSome := by
      obtain ⟨record, found⟩ := Option.isSome_iff_exists.1 present
      exact Option.isSome_of_mem (erase_eq_some found).2
    exact placed.single few (old here) (old there)

end Placed

/-- There is a client where there is a window, and once the first data was added. -/
def Accompanied (objects : Objects) (seeded : Prop) : Prop :=
  (seeded ∨ ∃ id, (objects ⟨.window, id⟩).isSome) → ∃ client, (objects ⟨.client, client⟩).isSome

namespace Accompanied

theorem put (accompanied : objects.Accompanied seeded)
    (window : record.kind = .window → (objects record.ref).isSome) :
    (objects.put record).Accompanied seeded := by
  intro needed
  obtain ⟨client, there⟩ := accompanied <| needed.imp_right fun ⟨id, present⟩ => by
    refine ⟨id, ?_⟩
    by_cases here : (⟨.window, id⟩ : Ref) = record.ref
    · exact here ▸ window (congrArg Ref.kind here).symm
    · rwa [put_of_ne here] at present
  exact ⟨client, isSome_put there⟩

theorem put_many (accompanied : objects.Accompanied seeded) (many : ¬record.kind.Single) :
    (objects.put record).Accompanied seeded :=
  accompanied.put fun window => absurd (.inr window) many

theorem erase (accompanied : objects.Accompanied seeded) (block : gone.kind = .block) :
    (objects.erase gone).Accompanied seeded := by
  have noBlock {kind : Kind} (other : kind ≠ .block) (id : String) :
      objects.erase gone ⟨kind, id⟩ = objects ⟨kind, id⟩ := by
    refine erase_of_ne ?_
    rintro rfl
    exact other block
  have window : Kind.window ≠ .block := by decide
  have client : Kind.client ≠ .block := by decide
  simp only [Accompanied, noBlock window, noBlock client]
  exact accompanied

end Accompanied

/-- **The graph is whole.** -/
structure Whole (objects : Objects) (buried : Ref → Prop) : Prop
    extends Owned objects, Placed objects buried

/-- The graph is whole, and in a state in which the first data cannot add a second window. -/
structure Intact (objects : Objects) (buried : Ref → Prop) (seeded : Prop) : Prop
    extends Whole objects buried where
  accompanied : objects.Accompanied seeded

theorem intact_empty (buried : Ref → Prop) : Intact (fun _ => none) buried False where
  toOwned := owned_empty
  named found := nomatch found
  active found := nomatch found
  single _ _ _ present := nomatch present
  accompanied := by simp [Accompanied]

namespace Intact

theorem mono (intact : objects.Intact buried seeded) (more : ∀ ref, buried ref → buried' ref) :
    objects.Intact buried' seeded where
  toOwned := intact.toOwned
  toPlaced := intact.toPlaced.mono more
  accompanied := intact.accompanied

theorem weaken {less : Prop} (intact : objects.Intact buried seeded) (weaker : less → seeded) :
    objects.Intact buried less where
  toWhole := intact.toWhole
  accompanied needed := intact.accompanied (needed.imp_left weaker)

/-- **An object is replaced by one with the same list**, which names what exists. -/
theorem replace (intact : objects.Intact buried seeded) (present : (objects record.ref).isSome)
    (same : record.children = objects.children record.ref)
    (named : ∀ other ∈ record.named, (objects other).isSome)
    (active : ∀ entry ∈ record.active,
      ⟨.block, entry.2⟩ ∈ objects.children ⟨.tab, entry.1⟩ ∨ buried ⟨.block, entry.2⟩) :
    (objects.put record).Intact buried seeded where
  toOwned := intact.toOwned.put same fun _ => present
  toPlaced := by
    refine intact.toPlaced.put (fun ref member => .inl (same ▸ member)) named active ?_
    exact fun few id there => intact.single few there present
  accompanied := intact.accompanied.put fun _ => present

/-- **A window shows something else**: a tab that exists, and as active blocks those that it had
or that are listed. -/
theorem reshow (intact : objects.Intact buried seeded) {window shown : Window}
    (found : objects ⟨.window, window.id⟩ = some ⟨.window, window⟩) (same : shown.id = window.id)
    (workspace : shown.workspaceId = window.workspaceId)
    (tab : (objects ⟨.tab, shown.activeTabId⟩).isSome)
    (active : ∀ entry ∈ shown.activeBlocks.entries, entry ∈ window.activeBlocks.entries ∨
      ⟨.block, entry.2⟩ ∈ objects.children ⟨.tab, entry.1⟩) :
    (objects.put ⟨.window, shown⟩).Intact buried seeded := by
  have address : Record.ref ⟨.window, shown⟩ = ⟨.window, window.id⟩ :=
    congrArg (Ref.mk .window) same
  refine intact.replace ?_ ?_ ?_ ?_
  · rw [address]
    exact Option.isSome_of_mem found
  · rw [address]
    exact (children_of_some found).symm
  · intro other member
    simp only [Record.named, List.mem_cons, List.mem_map] at member
    rcases member with rfl | rfl | ⟨entry, member, rfl⟩
    · exact workspace ▸ intact.named found _ List.mem_cons_self
    · exact tab
    · rcases active entry member with before | listed
      · refine intact.named found _ (List.mem_cons_of_mem _ (List.mem_cons_of_mem _ ?_))
        exact List.mem_map_of_mem before
      · exact isSome_of_mem_children listed
  · intro entry member
    rcases active entry member with before | listed
    · exact intact.active found entry before
    · exact .inl listed

/-- **A new object that others do not list** is added, and lists nothing yet. -/
theorem add (intact : objects.Intact buried seeded) (free : objects record.ref = none)
    (barren : record.children = []) (many : ¬record.kind.Single) (unlisted : ¬record.kind.Listed) :
    (objects.put record).Intact buried seeded where
  toOwned := intact.toOwned.put (barren.trans (children_of_none free).symm)
    fun listed => absurd listed unlisted
  toPlaced := intact.toPlaced.put_plain (by simp [children_of_none free]) many
  accompanied := intact.accompanied.put_many many

/-- **A new object is added, and its owner lists it.** -/
theorem adopt (intact : objects.Intact buried seeded) (free : objects child.ref = none)
    (barren : child.children = []) (many : ¬child.kind.Single) (manyOwners : ¬owner.kind.Single)
    (root : owner.kind.Listed → (objects owner.ref).isSome)
    (lists : owner.children = objects.children owner.ref ++ [child.ref]) :
    ((objects.put child).put owner).Intact buried seeded where
  toOwned := intact.toOwned.adopt free barren lists root
  toPlaced := by
    have added := intact.toPlaced.put_plain (by simp [children_of_none free]) many
    refine added.put_plain (fun ref member => .inl ?_) manyOwners
    rw [children_put] at member
    split at member
    · rw [barren] at member
      cases member
    · exact lists ▸ List.mem_append_left _ member
  accompanied := (intact.accompanied.put_many many).put_many manyOwners

/-- **A block is taken out of its tab and deleted.** -/
theorem disown (intact : objects.Intact buried seeded) (block : gone.kind = .block)
    (dead : buried gone) (many : ¬owner.kind.Single) (listed : gone ∈ objects.children owner.ref)
    (barren : objects.children gone = [])
    (rest : owner.children = (objects.children owner.ref).filter (· ≠ gone)) :
    ((objects.put owner).erase gone).Intact buried seeded where
  toOwned := intact.toOwned.disown (.inr block) listed barren rest
  toPlaced := by
    refine (intact.toPlaced.put_plain (fun ref member => ?_) many).erase block
    by_cases same : ref = gone
    · exact .inr (same ▸ dead)
    · exact .inl (rest ▸ List.mem_filter.2 ⟨member, by simpa using same⟩)
  accompanied := (intact.accompanied.put_many many).erase block

theorem no_window (intact : objects.Intact buried seeded)
    (noClient : ∀ id, objects ⟨.client, id⟩ = none) (id : String) :
    objects ⟨.window, id⟩ = none := by
  cases found : objects ⟨.window, id⟩ with
  | none => rfl
  | some record =>
      obtain ⟨client, there⟩ := intact.accompanied (.inr ⟨id, Option.isSome_of_mem found⟩)
      rw [noClient] at there
      cases there

/-- **The first window and its client are added** where there is no client. In between there
is a window without a client. -/
theorem introduce (intact : objects.Intact buried seeded)
    (noClient : ∀ id, objects ⟨.client, id⟩ = none) {window : Window} {client : Client}
    (workspace : (objects ⟨.workspace, window.workspaceId⟩).isSome)
    (tab : (objects ⟨.tab, window.activeTabId⟩).isSome) (idle : window.activeBlocks = ∅)
    (main : client.mainWindowId = window.id) :
    ((objects.put ⟨.window, window⟩).put ⟨.client, client⟩).Intact buried True := by
  have noWindow := intact.no_window noClient
  have listed : ¬Kind.window.Listed ∧ ¬Kind.client.Listed := by decide
  have other : Kind.client ≠ Kind.window := by decide
  have noClient' (id : String) : objects.put ⟨.window, window⟩ ⟨.client, id⟩ = none := by
    rw [← noClient id]
    exact put_of_kind other id
  have bareWindow : Record.children ⟨.window, window⟩ =
      objects.children (Record.ref ⟨.window, window⟩) :=
    (children_of_none (noWindow window.id)).symm
  have bareClient : Record.children ⟨.client, client⟩ =
      (objects.put ⟨.window, window⟩).children (Record.ref ⟨.client, client⟩) :=
    (children_of_none (noClient' client.id)).symm
  have owned : (objects.put ⟨.window, window⟩).Owned :=
    intact.toOwned.put bareWindow fun few => absurd few listed.1
  have placed : (objects.put ⟨.window, window⟩).Placed buried := by
    refine intact.toPlaced.put (fun ref member => .inl (bareWindow ▸ member)) ?_ ?_ ?_
    · have none : (∅ : SortedMap String String).entries = [] := rfl
      simp [Record.named, idle, none, workspace, tab]
    · rw [Record.active, idle]
      exact nofun
    · intro _ id there
      rw [noWindow id] at there
      cases there
  refine ⟨⟨owned.put bareClient fun few => absurd few listed.2, ?_⟩, fun _ => ⟨client.id, ?_⟩⟩
  · refine placed.put (fun ref member => .inl (bareClient ▸ member)) ?_ nofun ?_
    · intro other member
      rw [List.mem_singleton.1 member, main]
      exact Option.isSome_of_mem put_self
    · intro _ id there
      rw [noClient' id] at there
      cases there
  · exact Option.isSome_of_mem put_self

/-- **The first data is added**: a workspace with a tab, and a window and a client on them. -/
theorem found (intact : objects.Intact buried seeded)
    (noClient : ∀ id, objects ⟨.client, id⟩ = none) {tab : Tab} {workspace : Workspace}
    {window : Window} {client : Client}
    (freeTab : objects ⟨.tab, tab.id⟩ = none)
    (freeWorkspace : objects.put ⟨.tab, tab⟩ ⟨.workspace, workspace.id⟩ = none)
    (bare : tab.blockIds = []) (lists : workspace.tabIds = [tab.id])
    (shows : window.workspaceId = workspace.id ∧ window.activeTabId = tab.id)
    (idle : window.activeBlocks = ∅) (main : client.mainWindowId = window.id) :
    ((((objects.put ⟨.tab, tab⟩).put ⟨.workspace, workspace⟩).put ⟨.window, window⟩).put
      ⟨.client, client⟩).Intact buried True := by
  have many : ¬Kind.tab.Single ∧ ¬Kind.workspace.Single ∧ ¬Kind.workspace.Listed := by decide
  have kinds : Kind.client ≠ Kind.tab ∧ Kind.client ≠ Kind.workspace ∧
      Kind.workspace ≠ Kind.tab := by decide
  have free : objects (Record.ref ⟨.workspace, workspace⟩) = none :=
    (put_of_kind kinds.2.2 workspace.id).symm.trans freeWorkspace
  have listed : ((objects.put ⟨.tab, tab⟩).put ⟨.workspace, workspace⟩).Intact buried seeded := by
    refine intact.adopt freeTab ?_ many.1 many.2.1 (fun few => absurd few many.2.2) ?_
    · simp [Record.children, bare]
    · rw [children_of_none free]
      simp [Record.children, lists, Record.ref, Kind.ref, Kind.id]
  refine listed.introduce (fun id => ?_) ?_ ?_ idle main
  · exact ((put_of_kind kinds.2.1 id).trans (put_of_kind kinds.1 id)).trans (noClient id)
  · rw [shows.1]
    exact Option.isSome_of_mem put_self
  · rw [shows.2]
    exact isSome_put (Option.isSome_of_mem put_self)

end Intact

end Objects

end ScopedStore
