import ScopedStore.Proofs.Graph.Turns

/-!
# What the steps of a request come to

A request is a sequence of steps: it looks for an object that has to exist, draws an id, stores a
new object, replaces one, deletes one. On a handle that shows the rows that a step needs there is
nothing left to chance: the step succeeds with a known answer and one known write, or it fails with
a known cause and writes nothing. This module settles this once for every step
(`Transaction.run_mustGet`, `Transaction.run_new_of_free`, `Transaction.run_update_of_row`,
`Transaction.run_delete_of_row`), for success and failure alike, so that a whole request can be
run through step by step.
-/

set_option autoImplicit false

namespace ScopedStore

/-- The object of a kind under an id, which has to exist. -/
def Objects.need (objects : Objects) (kind : Kind) (id : String) : Except StoreError kind.Body :=
  match objects.find kind id with
  | some body => .ok body
  | none => .error (.notFound ⟨kind, id⟩)

namespace Objects

variable {objects : Objects} {kind : Kind} {id : String}

theorem need_of_some {body : kind.Body} (found : objects.find kind id = some body) :
    objects.need kind id = .ok body := by
  rw [need, found]

theorem need_of_none (missing : objects.find kind id = none) :
    objects.need kind id = .error (.notFound ⟨kind, id⟩) := by
  rw [need, missing]

end Objects

/-- The handle after an id was drawn. -/
def Handle.drawn (handle : Handle) : Handle := { handle with ids := handle.ids.draw.2 }

theorem Handle.run_draw (handle : Handle) :
    Work.run Transaction.draw.run handle = (.ok handle.ids.draw.1, handle.drawn) := rfl

namespace Transaction

variable {α β : Type} {handle between : Handle} {kind : Kind}

/-! ## Sequences -/

/-- A sequence goes on behind its first step where that succeeds. -/
theorem run_bind_of_ok {first : Transaction α} {next : α → Transaction β} {value : α}
    (done : Work.run first.run handle = (.ok value, between)) :
    Work.run (first >>= next).run handle = Work.run (next value).run between := by
  rw [run_bind, done]
  rfl

/-- A sequence ends with the failure of its first step. -/
theorem run_bind_of_error {first : Transaction α} {next : α → Transaction β} {cause : StoreError}
    (failed : Work.run first.run handle = (.error cause, between)) :
    Work.run (first >>= next).run handle = (.error cause, between) := by
  rw [run_bind, failed]
  rfl

/-! ## Looking for an object -/

/-- **An object that has to exist is given, or its absence is the failure.** -/
theorem run_mustGet {objects : Objects} (holds : handle.content.Holds objects)
    (fit : handle.content.VersionsFit) (noBlock : kind ≠ .block)
    (tabled : (handle.content.tables.get? kind).isSome) (id : String) :
    Work.run (mustGet kind id).run handle = (objects.need kind id, handle) := by
  have read : Work.run (ask (.get kind id)).run handle =
      (.ok (objects.find kind id), handle) :=
    Prod.ext (holds.get_find_of_noBlock fit noBlock tabled) rfl
  rw [mustGet, run_bind_of_ok read, Objects.need]
  cases objects.find kind id with
  | some body => rfl
  | none => rfl

/-! ## Storing a new object -/

/-- A new object is stored with version 1 where its place is free. -/
theorem run_insert_of_free {body : kind.Body} (tabled : (handle.content.tables.get? kind).isSome)
    (free : handle.content.row? (kind.ref body) = none) :
    Work.run (ask (.insert kind body)).run handle =
      (.ok (kind.withVersion body 1),
        handle.wrote (.inserted ⟨kind, kind.withVersion body 1⟩)) := by
  show handle.settle (handle.insert kind body) = _
  rw [Handle.insert_of_free tabled free]
  rfl

/-- Where the place is taken, that is the failure, and nothing is written. -/
theorem run_insert_of_taken {body : kind.Body}
    (taken : (handle.content.row? (kind.ref body)).isSome) :
    Work.run (ask (.insert kind body)).run handle =
      (.error (.duplicateKey (kind.ref body)), handle) := by
  obtain ⟨row, found⟩ := Option.isSome_iff_exists.1 taken
  show handle.settle (handle.insert kind body) = _
  rw [Handle.insert_of_taken found]
  rfl

section New

variable {build : String → kind.Body} {next : kind.Body → Transaction β}

/-- **A new object is stored under the next id**, and the work goes on with it. -/
theorem run_new_of_free (tabled : (handle.content.tables.get? kind).isSome)
    (free : handle.content.row? (kind.ref (build handle.ids.draw.1)) = none) :
    let new := kind.withVersion (build handle.ids.draw.1) 1
    Work.run (draw >>= fun id => ask (.insert kind (build id)) >>= next).run handle =
      Work.run (next new).run (handle.drawn.wrote (.inserted ⟨kind, new⟩)) := by
  intro new
  have inserted : Work.run (ask (.insert kind (build handle.ids.draw.1))).run handle.drawn = _ :=
    run_insert_of_free tabled free
  rw [run_bind_of_ok handle.run_draw, run_bind_of_ok inserted]

/-- **Where the next id is taken, that is the failure.** -/
theorem run_new_of_taken
    (taken : (handle.content.row? (kind.ref (build handle.ids.draw.1))).isSome) :
    Work.run (draw >>= fun id => ask (.insert kind (build id)) >>= next).run handle =
      (.error (.duplicateKey (kind.ref (build handle.ids.draw.1))), handle.drawn) := by
  have refused : Work.run (ask (.insert kind (build handle.ids.draw.1))).run handle.drawn = _ :=
    run_insert_of_taken taken
  rw [run_bind_of_ok handle.run_draw, run_bind_of_error refused]

end New

/-! ## Replacing and deleting an object -/

/-- **An object is replaced where its row has its version**, and the handle remembers nothing that
leads that version back to another one. -/
theorem run_update_of_row {body : kind.Body} {row : Row}
    (found : handle.content.row? (kind.ref body) = some row)
    (same : row.version = kind.version body)
    (straight : handle.expectedVersion (kind.ref body) (kind.version body) = kind.version body) :
    let stored := kind.withVersion body (kind.version body + 1)
    Work.run (ask (.update kind body)).run handle =
      (.ok stored, handle.wrote (.updated ⟨kind, stored⟩)) := by
  intro stored
  show handle.settle (handle.update kind body) = _
  rw [Handle.update_of_row found straight, if_pos same]
  rfl

/-- An object that is there is deleted. -/
theorem run_delete_of_row {id : String} (present : (handle.content.row? ⟨kind, id⟩).isSome)
    (graves : handle.content.tombstones.isSome) :
    Work.run (ask (.delete kind id)).run handle =
      (.ok true, handle.wrote (.deleted ⟨kind, id⟩)) := by
  obtain ⟨row, found⟩ := Option.isSome_iff_exists.1 present
  show handle.settle (handle.delete kind id) = _
  rw [Handle.delete_of_row found graves]
  rfl

end Transaction

end ScopedStore
