import ScopedStore.Proofs.Readings
import ScopedStore.Proofs.Runs
import ScopedStore.Proofs.Transactions
import ScopedStore.Proofs.UndoneValues

/-!
# Reading what was stored

An object is stored by the operations that insert and update, and by the creation of a block. Its
row then stays what it is as long as the writes of the object that are in effect are those that
were in effect then, in the transaction in which it was stored and in all later ones.

So reading the object gives exactly what the caller was given when it was stored, and no listing
fails because of it, provided that the body is not nested too deeply
(`stored_record_read_back`). That is a matter of free data alone: the body puts the free data of a
definition three levels below its own, and a file of the definition puts its data two more below
that. Nothing is refused when it is stored. A block that is nested more deeply than the reader of
bodies accepts is stored, and then it is read by nobody, neither alone nor in a listing, which has
no result at all because of it (`deeply_nested_block_is_unreadable`).
-/

set_option autoImplicit false

namespace ScopedStore

/-- The moves store an object, and the object is what the caller is given. -/
inductive Handle.Stores (handle : Handle) : Record → List Move → Prop
  | inserted {kind : Kind} {body stored : kind.Body}
      (answer : (handle.perform (.insert kind body)).1 = .ok stored) :
      Stores handle ⟨kind, stored⟩ [.perform (.insert kind body)]
  | updated {kind : Kind} {body stored : kind.Body}
      (answer : (handle.perform (.update kind body)).1 = .ok stored) :
      Stores handle ⟨kind, stored⟩ [.perform (.update kind body)]
  | created {tabId : String} {definition : BlockDefinition} {options : Option RuntimeOptions}
      {block : Block}
      (answer : (Work.run (Graph.createBlock tabId definition options).run handle).1 = .ok block) :
      Stores handle ⟨.block, block⟩
        (Work.moves (Graph.createBlock tabId definition options).run handle)

namespace Handle

open Transaction

variable {handle after : Handle} {record : Record}

/-- A block that was created has its row. -/
theorem row?_createBlock (lockstep : handle.Lockstep) {tabId : String}
    {definition : BlockDefinition} {options : Option RuntimeOptions} {block : Block}
    (given : Gives (Graph.createBlock tabId definition options) handle block after) :
    after.content.row? ⟨.block, block.id⟩ = some (Record.row ⟨.block, block⟩) := by
  obtain ⟨_, inside, rfl⟩ := (gives_nested lockstep).1 given
  obtain ⟨tab, _, _, rest⟩ := gives_bind.1 inside
  obtain ⟨id, _, _, rest⟩ := gives_bind.1 rest
  obtain ⟨stored, _, inserted, rest⟩ := gives_bind.1 rest
  obtain ⟨listing, _, updated, rest⟩ := gives_bind.1 rest
  obtain ⟨rfl, rfl⟩ := gives_pure.1 rest
  obtain ⟨_, fitsBlock, rfl⟩ := gives_insert inserted
  obtain ⟨_, fitsTab, rfl⟩ := gives_update updated
  have other : (⟨.block, stored.id⟩ : Ref) ≠ (Write.updated ⟨.tab, listing⟩).ref :=
    fun same => nomatch congrArg Ref.kind same
  rw [content_kept, content_wrote, Write.row?_apply fitsTab, if_neg other, content_wrote]
  exact Write.row?_apply_self fitsBlock _

/-- **What was stored has its row.** -/
theorem Stores.row? (lockstep : handle.Lockstep) {moves : List Move}
    (stores : handle.Stores record moves) :
    (handle.play moves).content.row? record.ref = some record.row := by
  cases stores with
  | inserted answer => exact row?_of_insert answer
  | updated answer => exact row?_of_update answer
  | created answer =>
      rw [← Work.run_eq_play]
      exact row?_createBlock lockstep (gives_of_answer answer)

/-- **An object that has its row is read**, unless its body is nested too deeply. -/
theorem get_of_record (stored : handle.content.row? record.ref = some record.row)
    (fits : record.kind.VersionFits record.body)
    (exact : record.kind.FreeData Json.Exact record.body) :
    handle.get record.kind record.id =
      if (record.kind.bodyFormat.write record.body).depth ≤ Json.maxLevels then
        .ok (some record.body)
      else .error (.repository (.invalidData (.unreadableBody record.ref))) := by
  have given : handle.get record.kind record.id =
      (readRow record.kind record.id record.row).map some := get_of_row stored
  have read : readRow record.kind record.id record.row = _ := readRow_row fits exact record.id
  rw [given, read]
  split <;> rfl

theorem not_list_of_get {kind : Kind} {id : String} {cause : StoreError}
    (failed : handle.get kind id = .error cause) (bodies : List kind.Body) :
    handle.list kind ≠ .ok bodies := by
  intro listed
  obtain ⟨found, given⟩ := exists_list_iff.1 ⟨bodies, listed⟩ id
  cases failed.symm.trans given

end Handle

/-- An object that was stored at some point of a run, which has gone on since. -/
structure StoredObject (start : Handle) (record : Record) where
  past : List Act
  storing : List Move
  stored : (start.live past).Stores record storing
  since : List Act

namespace StoredObject

variable {start : Handle} {record : Record} (object : StoredObject start record)

/-- What was done until the object was stored. -/
def actsThen : List Act := object.past ++ object.storing.map .move

/-- All that was done. -/
def acts : List Act := object.actsThen ++ object.since

/-- The handle as it is now. -/
def present : Handle := start.live object.acts

/-- The writes of the object that were in effect when it was stored. -/
def inEffectThen : List Write :=
  writesOf record.ref (Journal.blank.through (start.story object.actsThen)).inEffect

/-- The writes of the object that are in effect. -/
def inEffectNow : List Write :=
  writesOf record.ref (Journal.blank.through (start.story object.acts)).inEffect

/-- **A row stays what it is** while the writes of its object in effect stay the same. -/
theorem row? {first : Database} (lives : start.Lives first .blank)
    (kept : object.inEffectNow = object.inEffectThen) :
    object.present.content.row? record.ref = some record.row := by
  have stored : (start.live object.actsThen).content.row? record.ref = some record.row := by
    rw [actsThen, Handle.live_append, Handle.live_moves]
    exact object.stored.row? (lives.live object.past).lockstep
  have rowNow := (lives.live object.acts).becomes.row?_eq record.ref
  have rowThen := (lives.live object.actsThen).becomes.row?_eq record.ref
  have same : writesOf record.ref (Journal.blank.through (start.story object.acts)).inEffect =
      writesOf record.ref (Journal.blank.through (start.story object.actsThen)).inEffect := kept
  rw [present, rowNow, same, ← rowThen, stored]

end StoredObject

/-- **What was stored is read back**, as long as the object is not written again. Its body is
nested in so many levels that a reader accepts it, unless it is a block: then every reading gives
the object as it was stored, and all objects of its kind are given exactly if all others are. A
body with more levels is refused by every reading of it and by every listing. -/
theorem stored_record_read_back (content : Database) (tracked : Bool) (ids : IdSource) (now : Int)
    {record : Record} (object : StoredObject (.start content tracked ids now) record)
    (fits : record.kind.VersionFits record.body) (plain : record.kind.PlainData record.body)
    (kept : object.inEffectNow = object.inEffectThen) :
    let levels := (record.kind.bodyFormat.write record.body).depth
    (record.kind ≠ .block → levels ≤ Json.maxLevels) ∧
    (levels ≤ Json.maxLevels →
      object.present.get record.kind record.id = .ok (some record.body) ∧
      (∀ bodies, object.present.list record.kind = .ok bodies → record.body ∈ bodies) ∧
      ((∃ bodies, object.present.list record.kind = .ok bodies) ↔
        ∀ id, id ≠ record.id → ∃ found, object.present.get record.kind id = .ok found)) ∧
    (Json.maxLevels < levels →
      object.present.get record.kind record.id =
        .error (.repository (.invalidData (.unreadableBody record.ref))) ∧
      ∀ bodies, object.present.list record.kind ≠ .ok bodies) := by
  intro levels
  have stored := object.row? (Handle.lives_start content tracked ids now) kept
  have given := Handle.get_of_record stored fits plain.exact
  refine ⟨fun noBlock => ?_, fun shallow => ?_, fun deep => ?_⟩
  · exact Nat.le_trans (record.kind.depth_write_le record.body noBlock) (by decide)
  · rw [if_pos shallow] at given
    refine ⟨given, fun bodies listed => ?_, ?_⟩
    · exact (Handle.mem_list_iff listed record.body).2 ⟨record.id, given⟩
    · rw [Handle.exists_list_iff]
      refine ⟨fun all id _ => all id, fun others id => ?_⟩
      by_cases same : id = record.id
      · exact same ▸ ⟨_, given⟩
      · exact others id same
  · rw [if_neg (Nat.not_le.2 deep)] at given
    exact ⟨given, Handle.not_list_of_get given⟩

/-! ## Deeply nested blocks -/

/-- An empty array in that many arrays. -/
def Json.nested : Nat → Json
  | 0 => .array []
  | levels + 1 => .array [nested levels]

theorem Json.plain_nested : ∀ levels, (nested levels).Plain
  | 0 => plain_array nofun
  | levels + 1 => plain_array fun _ member => List.mem_singleton.1 member ▸ plain_nested levels

/-- A definition of a block with nested arrays in its free data. -/
def BlockDefinition.nested (levels : Nat) : BlockDefinition :=
  ⟨"", "", ∅, .ofList [("a", .nested levels)]⟩

/-- The block that is created from it. -/
def Block.nested (levels : Nat) : Block :=
  { Block.new "b" (.nested levels) none with version := 1 }

theorem Block.nested_fits (levels : Nat) : Kind.block.VersionFits (nested levels) :=
  have fits : -Bounds.signed64 ≤ (1 : Int) ∧ (1 : Int) < Bounds.signed64 := by decide
  fits

theorem Block.plain_nested (levels : Nat) : Kind.block.PlainData (nested levels) := by
  have data : Metadata.Plain (SortedMap.ofList [("a", Json.nested levels)]) := fun _ member =>
    List.mem_singleton.1 member ▸ Json.plain_nested levels
  exact ⟨data, data, nofun⟩

/-- In its free data, which is stored a second time as that of its definition, a block may hold
as many arrays in each other as bodies may have levels, less three. -/
def nestedBlock : StoredObject (.start .withSample true ⟨fun _ => "b", 0⟩ 0)
    ⟨.block, Block.nested 123⟩ where
  past := [.move .openScope]
  storing := Work.moves (Graph.createBlock "t" (.nested 123) none).run _
  stored := .created (by decide +kernel)
  since := [.move .keepScope, .transact true default 0]

theorem nested_block_read_back : nestedBlock.inEffectNow = nestedBlock.inEffectThen ∧
    nestedBlock.present.get .block "b" = .ok (some (Block.nested 123)) := by
  have kept : nestedBlock.inEffectNow = nestedBlock.inEffectThen := by decide +kernel
  have shallow : (Kind.block.bodyFormat.write (Block.nested 123)).depth ≤ Json.maxLevels := by
    decide +kernel
  have read := stored_record_read_back .withSample true ⟨fun _ => "b", 0⟩ 0 nestedBlock
    (Block.nested_fits 123) (Block.plain_nested 123) kept
  exact ⟨kept, (read.2.1 shallow).1⟩

/-- A block is created with one array more. -/
def deepCreation : Except StoreError Block × Handle :=
  Work.run (Graph.createBlock "t" (.nested 124) none).run
    (Handle.start .withSample true ⟨fun _ => "b", 0⟩ 0).openScope

/-- It is stored like the other one, but nobody can read it, not even the transaction that has
stored it. -/
theorem deeply_nested_block_is_unreadable :
    deepCreation.1 = .ok (Block.nested 124) ∧
      deepCreation.2.get .block "b" =
        .error (.repository (.invalidData (.unreadableBody ⟨.block, "b"⟩))) ∧
      ∀ blocks, deepCreation.2.list .block ≠ .ok blocks := by
  have created : deepCreation.1 = .ok (Block.nested 124) := by decide +kernel
  have deep : ¬(Kind.block.bodyFormat.write (Block.nested 124)).depth ≤ Json.maxLevels := by
    decide +kernel
  have lockstep := (Handle.Does.opened _).lockstep
    (Handle.lockstep_start .withSample true ⟨fun _ => "b", 0⟩ 0)
  have stored : deepCreation.2.content.row? (Record.ref ⟨.block, Block.nested 124⟩) =
      some (Record.row ⟨.block, Block.nested 124⟩) :=
    Handle.row?_createBlock lockstep (Transaction.gives_of_answer created)
  have refused := Handle.get_of_record stored (Block.nested_fits 124) (Block.plain_nested 124).exact
  rw [if_neg deep] at refused
  exact ⟨created, refused, Handle.not_list_of_get refused⟩

end ScopedStore
