import ScopedStore.Proofs.Scopes

/-!
# What each open scope has done

Every open scope has a record of what was done in it, and a saved content from which it set out.
A relation that says how a record leads from one content to another holds layer by layer: the
innermost record leads from the innermost saved content to the present one, the next one from
the content saved before to the innermost saved one, and so on (`Layered`).

Such a relation survives the opening, the keeping and the discarding of scopes for the same three
reasons whatever the records are, so these are given once: an empty record leads nowhere, two
records that follow each other can be joined, and dropping a layer leaves those below as they
were.
-/

set_option autoImplicit false

namespace ScopedStore

variable {α : Type} {Leads : Database → α → Database → Prop}

/-- The records lead, layer by layer, from the outermost of the saved contents to the present
one. The innermost record and the innermost content are first. -/
inductive Layered (Leads : Database → α → Database → Prop) :
    List α → List Database → Database → Prop
  | nil (now : Database) : Layered Leads [] [] now
  | cons {records : List α} {contents : List Database} {record : α} {saved now : Database}
      (inner : Leads saved record now) (outer : Layered Leads records contents saved) :
      Layered Leads (record :: records) (saved :: contents) now

namespace Layered

variable {records : List α} {contents : List Database} {now : Database}

/-- A new scope has done nothing. -/
theorem opened (layers : Layered Leads records contents now) {empty : α}
    (nothing : Leads now empty now) : Layered Leads (empty :: records) (now :: contents) now :=
  .cons nothing layers

/-- The innermost record leads to the present content. -/
theorem inner {record : α} {saved : Database}
    (layers : Layered Leads (record :: records) (saved :: contents) now) :
    Leads saved record now := by
  cases layers with
  | cons inner _ => exact inner

/-- What is done reaches the innermost record only. -/
theorem step {record changed : α} {next : Database}
    (layers : Layered Leads (record :: records) contents now)
    (change : ∀ saved, Leads saved record now → Leads saved changed next) :
    Layered Leads (changed :: records) contents next := by
  cases layers with
  | cons inner outer => exact .cons (change _ inner) outer

/-- When a scope is kept, its record joins the one below. -/
theorem kept {top parent joined : α} {saved : Database}
    (layers : Layered Leads (top :: parent :: records) (saved :: contents) now)
    (join : ∀ first, Leads first parent saved → Leads saved top now → Leads first joined now) :
    Layered Leads (joined :: records) contents now := by
  cases layers with
  | cons inner outer =>
      cases outer with
      | cons before rest => exact .cons (join _ before inner) rest

/-- When a scope is discarded, its saved content is the present one. -/
theorem dropped {top : α} {saved : Database}
    (layers : Layered Leads (top :: records) (saved :: contents) now) :
    Layered Leads records contents saved := by
  cases layers with
  | cons _ outer => exact outer

/-- Where there is a content there is a record. -/
theorem exists_record (some : contents ≠ []) (layers : Layered Leads records contents now) :
    ∃ top below, records = top :: below := by
  cases layers with
  | nil => exact absurd rfl some
  | cons _ _ => exact ⟨_, _, rfl⟩

/-- Where there are two contents there are two records. -/
theorem exists_records {saved : Database} (some : contents ≠ [])
    (layers : Layered Leads records (saved :: contents) now) :
    ∃ top parent below, records = top :: parent :: below := by
  cases layers with
  | cons _ outer =>
      obtain ⟨parent, below, rfl⟩ := outer.exists_record some
      exact ⟨_, parent, below, rfl⟩

theorem length_eq (layers : Layered Leads records contents now) :
    records.length = contents.length := by
  induction layers with
  | nil => rfl
  | cons _ _ ih => exact congrArg Nat.succ ih

end Layered

/-! ## Saved contents -/

namespace Handle

@[simp] theorem saved_wrote (handle : Handle) (write : Write) :
    (handle.wrote write).saved = handle.saved := by
  rw [saved, savepoints_wrote, saved]

@[simp] theorem saved_openScope (handle : Handle) :
    handle.openScope.saved = handle.content :: handle.saved := rfl

@[simp] theorem content_openScope (handle : Handle) : handle.openScope.content = handle.content :=
  rfl

@[simp] theorem content_kept (handle : Handle) : handle.kept.content = handle.content := rfl

/-- Keeping a scope forgets the content from which it set out. -/
@[simp] theorem saved_kept (handle : Handle) : handle.kept.saved = handle.saved.tail :=
  List.map_tail

/-- Discarding a scope goes back to the content from which it set out. -/
theorem saved_of_dropped {handle : Handle} (lockstep : handle.Lockstep)
    (opened : 0 < handle.depth) :
    handle.saved = handle.dropped.content :: handle.dropped.saved := by
  obtain ⟨innermost, outer, held, _⟩ := lockstep.exists_savepoint opened
  have content : handle.dropped.content = innermost.content := Connection.content_undo held
  rw [content, saved, saved, dropped, Connection.savepoints_undo, held]
  rfl

/-- What is true of all contents stays true when a scope is kept. -/
theorem forall_contents_kept {handle : Handle} {property : Database → Prop}
    (all : ∀ content ∈ handle.content :: handle.saved, property content) :
    ∀ content ∈ handle.kept.content :: handle.kept.saved, property content := by
  obtain ⟨present, saved⟩ := List.forall_mem_cons.1 all
  rw [content_kept, saved_kept]
  exact List.forall_mem_cons.2 ⟨present, fun content member =>
    saved content (List.mem_of_mem_tail member)⟩

/-- What is true of all contents stays true when a scope is discarded. -/
theorem forall_contents_dropped {handle : Handle} {property : Database → Prop}
    (lockstep : handle.Lockstep) (opened : 0 < handle.depth)
    (all : ∀ content ∈ handle.content :: handle.saved, property content) :
    ∀ content ∈ handle.dropped.content :: handle.dropped.saved, property content := by
  rw [← saved_of_dropped lockstep opened]
  exact (List.forall_mem_cons.1 all).2

end Handle

end ScopedStore
