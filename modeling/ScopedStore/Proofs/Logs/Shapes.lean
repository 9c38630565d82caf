import Mathlib.Data.List.Forall2
import Mathlib.Data.List.Sort
import ScopedStore.Proofs.Layers
import ScopedStore.Proofs.Readings
import ScopedStore.Proofs.SideBySide

/-!
# Handles of the same shape

Two handles have the same shape when they differ in nothing but what objects say: under every
address there is a row on both sides or on neither, with the same version, and the same goes for
the contents to which the open scopes would go back; the same addresses have pending changes in
every frame, and what the handle remembers of versions and ids is the same (`Handle.SameShape`).
The texts of the rows may differ in everything but the id of the object.

Handles of the same shape have logged the same. Every write of an object under the same address
with the same version keeps the shape, and so does every scope that is opened, kept or discarded:
what is logged about a write are a kind and a version, and what is logged about the frames of a
scope that is discarded are the addresses in them (`ChangeStack.describe`).
-/

set_option autoImplicit false

namespace ScopedStore

/-! ## Maps -/

namespace SortedMap

universe u v w

variable {κ : Type u} {α : Type v} {β : Type w} [Ord κ] [Std.TransOrd κ] [Std.LawfulEqOrd κ]
  [DecidableEq κ]

/-- Two maps have entries under the same keys. -/
def SameKeys (first : SortedMap κ α) (second : SortedMap κ β) : Prop :=
  ∀ key, (first.get? key).isSome = (second.get? key).isSome

namespace SameKeys

variable {first above : SortedMap κ α} {second above' : SortedMap κ β}

theorem insert (same : first.SameKeys second) (key : κ) (value : α) (value' : β) :
    (first.insert key value).SameKeys (second.insert key value') := by
  intro other
  rw [get?_insert, get?_insert]
  split
  · rfl
  · exact same other

theorem insertAll (same : first.SameKeys second) (upper : above.SameKeys above') :
    (first.insertAll above).SameKeys (second.insertAll above') := by
  intro key
  rw [get?_insertAll, get?_insertAll, Option.isSome_or, Option.isSome_or, same, upper]

/-- The keys stand in the same order. -/
theorem keys_eq (same : first.SameKeys second) : first.keys = second.keys := by
  have : Std.Irrefl fun earlier later : κ => compare earlier later = .lt :=
    ⟨fun key => by simp⟩
  have : Std.Antisymm fun earlier later : κ => compare earlier later = .lt :=
    ⟨fun key other before after => absurd after (Std.OrientedCmp.not_lt_of_lt before)⟩
  have ordered (map : SortedMap κ α) : map.keys.Pairwise fun earlier later =>
      compare earlier later = .lt := List.pairwise_map.2 map.increasing
  have ordered' (map : SortedMap κ β) : map.keys.Pairwise fun earlier later =>
      compare earlier later = .lt := List.pairwise_map.2 map.increasing
  refine (ordered first).eq_of_mem_iff (ordered' second) fun key => ?_
  rw [mem_keys_iff, mem_keys_iff, same]

theorem size_eq (same : first.SameKeys second) : first.size = second.size := by
  have lengths := congrArg List.length same.keys_eq
  rwa [keys, keys, List.length_map, List.length_map] at lengths

end SameKeys

end SortedMap

/-! ## Rows -/

namespace Handle

/-- An object has the version of its row. -/
theorem version_of_readRow {kind : Kind} {id : String} {row : Row} {body : kind.Body}
    (read : readRow kind id row = .ok body) : kind.version body = row.version := by
  obtain ⟨stored, readable, decoded⟩ := bind_eq_ok.1 read
  rw [lift, mapError_eq_ok, Repository.toRecord] at readable
  split at readable
  · cases readable
    rw [decode] at decoded
    split at decoded
    · cases decoded
      exact Kind.version_withVersion ..
    · cases decoded
  · cases readable

/-- What is read of the row of an object has the id of the object. -/
theorem id_of_readRow {kind : Kind} {id : String} {body again : kind.Body}
    (read : readRow kind id (Record.row ⟨kind, body⟩) = .ok again) : kind.id again = kind.id body := by
  obtain ⟨stored, readable, decoded⟩ := bind_eq_ok.1 read
  rw [lift, mapError_eq_ok, Repository.toRecord] at readable
  split at readable
  · rename_i data parsed
    cases readable
    rw [decode] at decoded
    split at decoded
    · rename_i held whole
      cases decoded
      exact (Kind.id_withVersion ..).trans (kind.id_of_stored parsed whole)
    · cases decoded
  · cases readable

end Handle

/-- The rows under an address have the same version, and the same id is read of them. -/
structure Row.SameShape (ref : Ref) (first second : Row) : Prop where
  version : first.version = second.version
  id : ∀ {body other}, Handle.readRow ref.kind ref.id first = .ok body →
    Handle.readRow ref.kind ref.id second = .ok other → ref.kind.id body = ref.kind.id other

/-- The rows of two objects with the same address and version. -/
theorem Record.sameShape_row {record other : Record} (refs : record.ref = other.ref)
    (versions : record.version = other.version) : record.row.SameShape record.ref other.row := by
  obtain ⟨kind, body⟩ := record
  obtain ⟨kind', body'⟩ := other
  obtain rfl : kind = kind' := congrArg Ref.kind refs
  refine ⟨versions, fun read read' => ?_⟩
  exact (Handle.id_of_readRow read).trans
    ((congrArg Ref.id refs).trans (Handle.id_of_readRow read').symm)

/-- **The databases have the same shape**: the same tables, and rows of the same shape under the
same addresses. -/
structure Database.SameShape (first second : Database) : Prop where
  version : first.userVersion = second.userVersion
  tables : ∀ kind, (first.tables.get? kind).isSome = (second.tables.get? kind).isSome
  tombstones : first.tombstones.isSome = second.tombstones.isSome
  rows : ∀ ref, Option.Rel (Row.SameShape ref) (first.row? ref) (second.row? ref)

theorem Row.SameShape.symm {ref : Ref} {first second : Row} (same : first.SameShape ref second) :
    second.SameShape ref first :=
  ⟨same.version.symm, fun read read' => (same.id read' read).symm⟩

namespace Database.SameShape

variable {first second : Database} {ref : Ref} {row : Row}

theorem refl (database : Database) : database.SameShape database where
  version := rfl
  tables _ := rfl
  tombstones := rfl
  rows ref := by
    cases database.row? ref with
    | none => exact .none
    | some row =>
        refine .some ⟨rfl, fun read read' => ?_⟩
        cases read.symm.trans read'
        rfl

theorem symm (same : first.SameShape second) : second.SameShape first where
  version := same.version.symm
  tables kind := (same.tables kind).symm
  tombstones := same.tombstones.symm
  rows ref := by
    have rows := same.rows ref
    generalize first.row? ref = row, second.row? ref = other at rows ⊢
    cases rows with
    | none => exact .none
    | some shape => exact .some shape.symm

theorem row?_eq_none (same : first.SameShape second) (free : first.row? ref = none) :
    second.row? ref = none := by
  have rows := same.rows ref
  rw [free] at rows
  generalize second.row? ref = other at rows ⊢
  cases rows
  rfl

theorem exists_row (same : first.SameShape second) (found : first.row? ref = some row) :
    ∃ other, second.row? ref = some other ∧ row.SameShape ref other := by
  have rows := same.rows ref
  rw [found] at rows
  generalize second.row? ref = other at rows ⊢
  cases rows with
  | some shape => exact ⟨_, rfl, shape⟩

theorem isSome_row?_eq (same : first.SameShape second) (ref : Ref) :
    (first.row? ref).isSome = (second.row? ref).isSome := by
  have rows := same.rows ref
  generalize first.row? ref = row, second.row? ref = other at rows ⊢
  cases rows <;> rfl

theorem exists_table {kind : Kind} {table : Table} (same : first.SameShape second)
    (found : first.tables.get? kind = some table) :
    ∃ other, second.tables.get? kind = some other := by
  have tables := same.tables kind
  rw [found] at tables
  exact Option.isSome_iff_exists.1 tables.symm

theorem exists_tombstones {tombstones : Tombstones} (same : first.SameShape second)
    (found : first.tombstones = some tombstones) : ∃ other, second.tombstones = some other := by
  have graves := same.tombstones
  rw [found] at graves
  exact Option.isSome_iff_exists.1 graves.symm

/-- There are as many rows of each kind. -/
theorem count_eq (same : first.SameShape second) (kind : Kind) :
    Repository.count first kind = Repository.count second kind := by
  rw [Repository.count, Repository.count, Repository.table, Repository.table, Database.rows,
    Database.rows]
  cases found : first.tables.get? kind with
  | none =>
      have missing : second.tables.get? kind = none := by
        rw [← Option.not_isSome_iff_eq_none, ← same.tables kind, found]
        exact Bool.false_ne_true
      rw [missing]
  | some table =>
      obtain ⟨other, found'⟩ := same.exists_table found
      rw [found']
      have keys : table.SameKeys other := fun id => by
        have rows := same.isSome_row?_eq ⟨kind, id⟩
        rwa [Database.row?_of_table found, Database.row?_of_table found'] at rows
      exact congrArg Except.ok keys.size_eq

end Database.SameShape

/-- The writes are of the same sort, under the same address and with the same version. -/
inductive Write.SameShape : Write → Write → Prop
  | inserted {record other : Record} (refs : record.ref = other.ref)
      (versions : record.version = other.version) : SameShape (.inserted record) (.inserted other)
  | updated {record other : Record} (refs : record.ref = other.ref)
      (versions : record.version = other.version) : SameShape (.updated record) (.updated other)
  | deleted (ref : Ref) : SameShape (.deleted ref) (.deleted ref)

namespace Write

variable {first second : Database} {write other : Write}

theorem SameShape.ref (shape : write.SameShape other) : write.ref = other.ref := by
  cases shape with
  | inserted refs _ | updated refs _ => exact refs
  | deleted ref => rfl

theorem SameShape.symm (shape : write.SameShape other) : other.SameShape write := by
  cases shape with
  | inserted refs versions => exact .inserted refs.symm versions.symm
  | updated refs versions => exact .updated refs.symm versions.symm
  | deleted ref => exact .deleted ref

theorem SameShape.event (shape : write.SameShape other) : write.event = other.event := by
  cases shape with
  | inserted refs _ => exact congrArg Event.inserted (congrArg Ref.kind refs)
  | updated refs versions => exact congrArg₂ Event.updated (congrArg Ref.kind refs) versions
  | deleted ref => rfl

theorem SameShape.row? (shape : write.SameShape other) :
    Option.Rel (Row.SameShape write.ref) write.row? other.row? := by
  cases shape with
  | inserted refs versions | updated refs versions => exact .some (Record.sameShape_row refs versions)
  | deleted ref => exact .none

theorem userVersion_apply (write : Write) (now : Int) (database : Database) :
    (write.apply now database).userVersion = database.userVersion := by
  cases write with
  | inserted record | updated record =>
      rw [apply, Database.put]
      split <;> rfl
  | deleted ref =>
      rw [apply, Database.bury]
      split <;> rfl

/-- **Writes of the same shape keep the shape.** -/
theorem SameShape.apply (shape : write.SameShape other) (same : first.SameShape second)
    (fits : write.Fits first) (fits' : other.Fits second) (now now' : Int) :
    (write.apply now first).SameShape (other.apply now' second) where
  version := by rw [userVersion_apply, userVersion_apply, same.version]
  tables kind := by
    rw [isSome_table_apply fits, isSome_table_apply fits', same.tables]
  tombstones := by
    rw [isSome_tombstones_apply, isSome_tombstones_apply, same.tombstones]
  rows ref := by
    rw [row?_apply fits, row?_apply fits', ← shape.ref]
    split
    · rename_i here
      exact here ▸ shape.row?
    · exact same.rows ref

/-- **Where one of the writes can be made the other one can be made.** -/
theorem SameShape.fits (shape : write.SameShape other) (same : first.SameShape second)
    (fits : write.Fits first) : other.Fits second := by
  cases shape with
  | @inserted record other refs versions =>
      cases fits with
      | inserted found free one =>
          have kinds : record.kind = other.kind := congrArg Ref.kind refs
          obtain ⟨table, found'⟩ := same.exists_table found
          exact .inserted (kinds ▸ found') (refs ▸ same.row?_eq_none free) (versions ▸ one)
  | updated refs versions =>
      cases fits with
      | updated found next =>
          obtain ⟨row, found', shape⟩ := same.exists_row found
          exact .updated (refs ▸ found') (versions ▸ shape.version ▸ next)
  | deleted ref =>
      cases fits with
      | deleted found graves =>
          obtain ⟨row, found', _⟩ := same.exists_row found
          obtain ⟨tombstones, graves'⟩ := same.exists_tombstones graves
          exact .deleted found' graves'

end Write

/-! ## Frames -/

namespace Frames

variable {first second : List Frame}

/-- The same addresses have changes in every frame. -/
def SameKeys (first second : List Frame) : Prop := List.Forall₂ SortedMap.SameKeys first second

theorem SameKeys.symm (same : SameKeys first second) : SameKeys second first :=
  (same.imp fun _ _ keys key => (keys key).symm).flip

theorem SameKeys.record (same : SameKeys first second) {change other : Change}
    (refs : change.ref = other.ref) : SameKeys (record change first) (record other second) := by
  cases same with
  | nil => exact .nil
  | cons top below =>
      rw [Frames.record, Frames.record, ← refs]
      exact .cons (top.insert change.ref change other) below

theorem SameKeys.opened (same : SameKeys first second) : SameKeys (opened first) (opened second) := by
  cases same with
  | nil => exact .nil
  | cons top below => exact .cons (fun _ => rfl) (.cons top below)

theorem SameKeys.kept (same : SameKeys first second) : SameKeys (kept first) (kept second) := by
  cases same with
  | nil => exact .nil
  | cons top below =>
      cases below with
      | nil => exact .cons top .nil
      | cons parent below => exact .cons (parent.insertAll top) below

theorem SameKeys.dropped (same : SameKeys first second) :
    SameKeys (dropped first) (dropped second) := by
  cases same with
  | nil => exact .nil
  | cons top below =>
      cases below with
      | nil => exact .cons top .nil
      | cons parent below => exact .cons parent below

theorem SameKeys.overlay (same : SameKeys first second) :
    (overlay first).SameKeys (overlay second) := by
  induction same with
  | nil => exact fun _ => rfl
  | cons top below ih => exact ih.insertAll top

end Frames

/-- Items that are told alike in the same places make the same list. -/
theorem mapIdx_eq_of_forall₂ {α β γ : Type} {related : α → β → Prop} {first : List α}
    {second : List β} (same : List.Forall₂ related first second) :
    ∀ {tell : Nat → α → γ} {tell' : Nat → β → γ},
      (∀ place item other, related item other → tell place item = tell' place other) →
        first.mapIdx tell = second.mapIdx tell' := by
  induction same with
  | nil => exact fun _ => rfl
  | cons head tail ih =>
      intro tell tell' alike
      rw [List.mapIdx_cons, List.mapIdx_cons, alike 0 _ _ head,
        ih fun place item other => alike (place + 1) item other]

/-- **What is logged about the frames tells their addresses alone.** -/
theorem ChangeStack.describe_congr {first second : ChangeStack}
    (same : Frames.SameKeys first.frames second.frames) : first.describe = second.describe := by
  have heights : first.height = second.height := by
    have lengths := same.length_eq
    rw [frames, frames, List.length_append, List.length_append] at lengths
    exact lengths
  rw [describe, describe, heights]
  refine congrArg _ (mapIdx_eq_of_forall₂ (List.rel_reverse same) fun place top other keys => ?_)
  rw [keys.keys_eq]

/-! ## Handles -/

/-- **The handles have the same shape.** The time is no part of it. -/
structure Handle.SameShape (first second : Handle) : Prop where
  content : first.content.SameShape second.content
  saved : List.Forall₂ Database.SameShape first.saved second.saved
  frames : Frames.SameKeys first.frames second.frames
  depth : first.depth = second.depth
  written : first.written = second.written
  undone : first.undone = second.undone
  ids : first.ids = second.ids
  log : first.log = second.log

namespace Handle

variable {first second : Handle} {write other : Write}

theorem log_wrote (handle : Handle) (write : Write) :
    (handle.wrote write).log = handle.log ++ [write.event] := by
  cases write <;> rfl

theorem ids_wrote (handle : Handle) (write : Write) : (handle.wrote write).ids = handle.ids := by
  cases write <;> rfl

theorem saved_dropped (handle : Handle) : handle.dropped.saved = handle.saved.tail := by
  rw [saved, dropped, Connection.savepoints_undo, List.map_tail, saved]

theorem content_dropped (handle : Handle) :
    handle.dropped.content = handle.saved.headD handle.content := by
  rw [content, dropped, Connection.undo, saved]
  cases handle.connection.savepoints <;> rfl

theorem forall₂_tail {α β : Type} {related : α → β → Prop} {first : List α} {second : List β}
    (same : List.Forall₂ related first second) : List.Forall₂ related first.tail second.tail := by
  cases same with
  | nil => exact .nil
  | cons _ rest => exact rest

namespace SameShape

theorem symm (same : first.SameShape second) : second.SameShape first where
  content := same.content.symm
  saved := (same.saved.imp fun _ _ => Database.SameShape.symm).flip
  frames := same.frames.symm
  depth := same.depth.symm
  written := same.written.symm
  undone := same.undone.symm
  ids := same.ids.symm
  log := same.log.symm

theorem start {content content' : Database} (same : content.SameShape content') (tracked : Bool)
    (ids : IdSource) (now now' : Int) :
    (Handle.start content tracked ids now).SameShape (Handle.start content' tracked ids now') where
  content := same
  saved := .nil
  frames := by
    cases tracked with
    | true => exact .cons (fun _ => rfl) .nil
    | false => exact .nil
  depth := rfl
  written := rfl
  undone := rfl
  ids := rfl
  log := rfl

theorem withIds (same : first.SameShape second) (ids : IdSource) :
    ({ first with ids } : Handle).SameShape { second with ids } :=
  { same with ids := rfl }

theorem record (same : first.SameShape second) {change other : Change}
    (refs : change.ref = other.ref) : (first.record change).SameShape (second.record other) :=
  { same with
    frames := by
      rw [frames_record, frames_record]
      exact same.frames.record refs }

/-- **Writes of the same shape keep the shape.** -/
theorem wrote (same : first.SameShape second) (shape : write.SameShape other)
    (fits : write.Fits first.content) : (first.wrote write).SameShape (second.wrote other) where
  content := by
    rw [content_wrote, content_wrote]
    exact shape.apply same.content fits (shape.fits same.content fits) _ _
  saved := by
    rw [saved_wrote, saved_wrote]
    exact same.saved
  frames := by
    rw [frames_wrote, frames_wrote]
    exact same.frames.record (by rw [Write.ref_change, Write.ref_change, shape.ref])
  depth := by rw [depth_wrote, depth_wrote, same.depth]
  written := by
    cases shape with
    | updated refs versions =>
        change (first.noteVersion _ _ _).written = (second.noteVersion _ _ _).written
        rw [noteVersion, noteVersion, same.written, refs, versions]
    | inserted | deleted => exact same.written
  undone := by
    cases shape with
    | updated refs versions =>
        change first.undone.erase _ = second.undone.erase _
        rw [refs, same.undone]
    | inserted | deleted => exact same.undone
  ids := by rw [ids_wrote, ids_wrote, same.ids]
  log := by rw [log_wrote, log_wrote, same.log, shape.event]

theorem openScope (same : first.SameShape second) : first.openScope.SameShape second.openScope where
  content := same.content
  saved := .cons same.content same.saved
  frames := by
    rw [frames_openScope, frames_openScope]
    exact same.frames.opened
  depth := congrArg (· + 1) same.depth
  written := congrArg (List.cons ∅) same.written
  undone := same.undone
  ids := same.ids
  log := congrArg₂ (fun log depth => log ++ [Event.scopeOpened (depth + 1)]) same.log same.depth

theorem kept (same : first.SameShape second) : first.kept.SameShape second.kept where
  content := same.content
  saved := by
    rw [saved_kept, saved_kept]
    exact forall₂_tail same.saved
  frames := by
    rw [frames_kept, frames_kept]
    exact same.frames.kept
  depth := congrArg (· - 1) same.depth
  written := congrArg joinInnermost same.written
  undone := same.undone
  ids := same.ids
  log := congrArg₂ (fun log depth => log ++ [Event.scopeCommitted depth]) same.log same.depth

/-- What is logged about the frames of a scope that is discarded is the same. -/
theorem described (same : first.SameShape second) :
    (first.changes.map ChangeStack.describe).getD [] =
      (second.changes.map ChangeStack.describe).getD [] := by
  have frames := same.frames
  rw [Handle.frames, Handle.frames] at frames
  have some (stack : ChangeStack) : stack.frames ≠ [] :=
    List.append_ne_nil_of_right_ne_nil _ (List.cons_ne_nil _ _)
  cases recorded : first.changes with
  | none =>
      cases recorded' : second.changes with
      | none => rfl
      | some stack =>
          rw [recorded, recorded'] at frames
          exact absurd (List.forall₂_nil_left_iff.1 frames) (some stack)
  | some stack =>
      cases recorded' : second.changes with
      | none =>
          rw [recorded, recorded'] at frames
          exact absurd (List.forall₂_nil_right_iff.1 frames) (some stack)
      | some stack' =>
          rw [recorded, recorded'] at frames
          exact ChangeStack.describe_congr frames

theorem dropped (same : first.SameShape second) : first.dropped.SameShape second.dropped where
  content := by
    have saved := same.saved
    rw [content_dropped, content_dropped]
    generalize first.saved = contents, second.saved = contents' at saved ⊢
    cases saved with
    | nil => exact same.content
    | cons innermost _ => exact innermost
  saved := by
    rw [saved_dropped, saved_dropped]
    exact forall₂_tail same.saved
  frames := by
    rw [frames_dropped, frames_dropped]
    exact same.frames.dropped
  depth := congrArg (· - 1) same.depth
  written := congrArg List.tail same.written
  undone := by rw [Handle.dropped, Handle.dropped, same.undone, same.written]
  ids := same.ids
  log := by
    rw [Handle.dropped, Handle.dropped, same.log, same.described, same.depth]

/-- **A scope that is closed in the same way keeps the shape.** -/
theorem closed (same : first.SameShape second) (ending : Ending) :
    (first.closed ending).SameShape (second.closed ending) := by
  cases ending with
  | keep => exact same.kept
  | discard | unwind => exact same.dropped

end SameShape

end Handle

end ScopedStore
