import ScopedStore.Proofs.Graph.Turns
import ScopedStore.Proofs.Graph.Whole

/-!
# Requests keep the graph whole

A request that changes more than one object does so in a scope of its own, so the graph need not
be whole while it works: only what it leaves where it succeeds counts, and where it fails it
leaves nothing. What it does to the objects is a turn, and every turn is one of the changes that
keep a whole graph intact (`Objects.Turn.intact`). So is the first data (`Objects.Start.intact`).
-/

set_option autoImplicit false

namespace ScopedStore

/-- The graph of the objects that the database holds is intact. -/
def Database.Intact (seeded : Prop) (database : Database) : Prop :=
  ∃ objects, database.Holds objects ∧ objects.Intact database.Buried seeded

theorem Database.intact_vacant : Database.vacant.Intact False :=
  ⟨_, holds_vacant, Objects.intact_empty _⟩

theorem Database.Intact.weaken {database : Database} {seeded less : Prop}
    (intact : database.Intact seeded) (weaker : less → seeded) : database.Intact less := by
  obtain ⟨objects, holds, intact⟩ := intact
  exact ⟨objects, holds, intact.weaken weaker⟩

theorem Workspace.children_listing (workspace : Workspace) (tabId : String) :
    Record.children ⟨.workspace, workspace.listing tabId⟩ =
      Record.children ⟨.workspace, workspace⟩ ++ [⟨.tab, tabId⟩] := List.map_append

theorem Tab.children_listing (tab : Tab) (blockId : String) :
    Record.children ⟨.tab, tab.listing blockId⟩ =
      Record.children ⟨.tab, tab⟩ ++ [⟨.block, blockId⟩] := List.map_append

theorem Tab.children_unlisting (tab : Tab) (blockId : String) :
    Record.children ⟨.tab, tab.unlisting blockId⟩ =
      (Record.children ⟨.tab, tab⟩).filter (· ≠ ⟨.block, blockId⟩) := by
  rw [Record.children, Record.children, List.filter_map]
  refine congrArg _ (List.filter_congr fun id _ => ?_)
  by_cases same : id = blockId
  · simp [same]
  · simp [same]

namespace Objects

variable {objects later : Objects} {before after : Database} {seeded : Prop}

/-- **Every turn keeps the graph intact.** -/
theorem Turn.intact {request : Request} {response : Response}
    (turn : objects.Turn request response later) (passes : before.Passes objects after later)
    (holds : before.Holds objects) (before : objects.Intact before.Buried seeded) :
    later.Intact after.Buried seeded := by
  have intact := before.mono passes.buried
  cases turn with
  | createWorkspace free =>
      have many : ¬Kind.workspace.Single ∧ ¬Kind.workspace.Listed := by decide
      exact intact.add free rfl many.1 many.2
  | createTab found free =>
      have many : ¬Kind.tab.Single ∧ ¬Kind.workspace.Single := by decide
      refine intact.adopt free rfl many.1 many.2 (fun _ => Option.isSome_of_mem found) ?_
      have before := children_of_some found
      exact before ▸ Workspace.children_listing _ _
  | createBlock found free =>
      have many : ¬Kind.block.Single ∧ ¬Kind.tab.Single := by decide
      refine intact.adopt free rfl many.1 many.2 (fun _ => Option.isSome_of_mem found) ?_
      have before := children_of_some found
      exact before ▸ Tab.children_listing _ _
  | @deleteBlock tab blockId found listed =>
      have many : ¬Kind.tab.Single := by decide
      have child : (⟨.block, blockId⟩ : Ref) ∈ objects.children (Record.ref ⟨.tab, tab⟩) :=
        (children_of_some found) ▸ List.mem_map_of_mem listed
      have dead : after.Buried ⟨.block, blockId⟩ :=
        passes.gone _ (before.present child) erase_self
      refine intact.disown rfl dead many child (holds.children_block blockId) ?_
      have before := children_of_some found
      exact before ▸ Tab.children_unlisting tab blockId
  | setActiveTab found shown =>
      exact intact.reshow found rfl rfl (Option.isSome_of_mem shown) fun _ => .inl
  | setActiveBlock found shown listed =>
      refine intact.reshow found rfl rfl ?_ fun entry member => ?_
      · exact intact.named found _ (List.mem_cons_of_mem _ List.mem_cons_self)
      · rcases Entries.mem_insert member with rfl | before
        · exact .inr (children_of_some shown ▸ List.mem_map_of_mem listed)
        · exact .inl before
  | getClient _ => exact intact
  | getWindowView _ => exact intact
  | getMainView _ _ _ => exact intact

/-- **The first data keeps the graph intact**, and there is a client then. -/
theorem Start.intact {ids : IdSource} {value : Option Client}
    (start : objects.Start ids value later) (passes : before.Passes objects after later)
    (before : objects.Intact before.Buried seeded) : later.Intact after.Buried True := by
  have intact := before.mono passes.buried
  cases start with
  | skipped found => exact ⟨intact.toWhole, fun _ => ⟨_, Option.isSome_of_mem found⟩⟩
  | added noClient freeTab freeWorkspace _ =>
      have other : Kind.workspace ≠ Kind.tab := by decide
      exact intact.found noClient freeTab ((put_of_kind other _).trans freeWorkspace) rfl rfl
        ⟨rfl, rfl⟩ rfl rfl

end Objects

/-- **Every request keeps the graph intact**, whether it succeeds or fails. -/
theorem Request.preserves_intact (request : Request) (seeded : Prop) :
    Work.Preserves (Database.Intact seeded) request.answer.run := by
  refine request.allOrNothing.preserves ?_
  rintro handle after response lockstep ⟨objects, holds, intact⟩ given
  obtain ⟨later, turn, passes⟩ := request.turn lockstep holds given
  exact ⟨later, passes.holds, turn.intact passes holds intact⟩

/-- **The first data leaves the graph intact where it succeeds**, and with a client. -/
theorem Graph.intact_seed {seeded : Prop} {handle after : Handle} {value : Option Client}
    (intact : handle.content.Intact seeded)
    (given : Transaction.Gives seed handle value after) : after.content.Intact True := by
  obtain ⟨objects, holds, intact⟩ := intact
  obtain ⟨later, start, passes⟩ := start_seed holds given
  exact ⟨later, passes.holds, start.intact passes intact⟩

end ScopedStore
