import ScopedStore.Proofs.Journal
import ScopedStore.Proofs.Layers

/-!
# Versions of objects that are not deleted

An object that is never deleted has a version that only updates move: storing it gives it the
version 1, which may be counted as its version from the beginning on. So the spans of the open
scopes lead, layer by layer, from the version of a saved content to that of the next, always
upwards, and what is remembered of undone updates leads back to the version of the present content
(`Handle.Steady`). A deletion breaks this, because an object that is stored again starts anew at
version 1, and nothing notes that.
-/

set_option autoImplicit false

namespace ScopedStore

/-- The version of an object; one that is not stored will have version 1. -/
def Database.standing (database : Database) (ref : Ref) : Int :=
  ((database.row? ref).map Row.version).getD 1

theorem Database.standing_of_row {database : Database} {ref : Ref} {row : Row}
    (found : database.row? ref = some row) : database.standing ref = row.version := by
  rw [standing, found]
  rfl

namespace Write

variable {database : Database} {write : Write}

theorem standing_apply_of_ne (fits : write.Fits database) (now : Int) {ref : Ref}
    (other : ref ≠ write.ref) :
    (write.apply now database).standing ref = database.standing ref := by
  rw [Database.standing, row?_apply fits, if_neg other, Database.standing]

/-- Storing an object leaves it at version 1. -/
theorem standing_apply_inserted {record : Record} (fits : (inserted record).Fits database)
    (now : Int) (ref : Ref) :
    ((inserted record).apply now database).standing ref = database.standing ref := by
  by_cases same : ref = record.ref
  · subst same
    have row : ((inserted record).apply now database).row? record.ref = some record.row :=
      row?_apply_self fits now
    rw [Database.standing_of_row row]
    cases fits with
    | inserted found free first =>
        rw [Database.standing, free]
        exact first
  · exact standing_apply_of_ne fits now same

/-- Updating an object moves it to the next version. -/
theorem standing_apply_updated {record : Record} (fits : (updated record).Fits database)
    (now : Int) :
    database.standing record.ref = record.version - 1 ∧
      ((updated record).apply now database).standing record.ref = record.version := by
  constructor
  · cases fits with
    | updated found next =>
        rw [Database.standing_of_row found]
        omega
  · exact Database.standing_of_row (row?_apply_self fits now)

end Write

/-- The spans of a scope lead the version of an object from one content to another. -/
def Moved (ref : Ref) (before : Database) (spans : VersionSpans) (after : Database) : Prop :=
  match spans.get? ref with
  | none => after.standing ref = before.standing ref
  | some span =>
      span.base = before.standing ref ∧ span.latest = after.standing ref ∧ span.base < span.latest

namespace Moved

variable {ref : Ref} {before middle after : Database} {spans : VersionSpans}

theorem refl (database : Database) : Moved ref database ∅ database := rfl

/-- What does not change the version of the object needs no note. -/
theorem still (moved : Moved ref before spans middle)
    (same : after.standing ref = middle.standing ref) : Moved ref before spans after := by
  rw [Moved] at moved ⊢
  rwa [same]

theorem of_get? {other : VersionSpans} (moved : Moved ref before spans after)
    (same : other.get? ref = spans.get? ref) : Moved ref before other after := by
  rw [Moved, same]
  exact moved

/-- An update is noted as a move to the next version. -/
theorem note (moved : Moved ref before spans middle) {version : Int}
    (old : middle.standing ref = version - 1) (new : after.standing ref = version) :
    Moved ref before (spans.note ref (version - 1) version) after := by
  rw [Moved, VersionSpans.note, SortedMap.get?_insert_self]
  rw [Moved] at moved
  cases noted : spans.get? ref with
  | none =>
      rw [noted] at moved
      exact ⟨old.symm.trans moved, new.symm, Int.sub_one_lt_of_le (Int.le_refl version)⟩
  | some span =>
      rw [noted] at moved
      obtain ⟨base, latest, upwards⟩ := moved
      refine ⟨base, new.symm, ?_⟩
      dsimp only [Option.map_some, Option.getD_some]
      omega

theorem trans {inner : VersionSpans} (first : Moved ref before spans middle)
    (second : Moved ref middle inner after) :
    Moved ref before (spans.followedBy inner) after := by
  rw [Moved, VersionSpans.get?_followedBy]
  rw [Moved] at first second
  cases outerNoted : spans.get? ref with
  | none =>
      rw [outerNoted] at first
      cases innerNoted : inner.get? ref with
      | none =>
          rw [innerNoted] at second
          exact second.trans first
      | some later =>
          rw [innerNoted] at second
          exact ⟨second.1.trans first, second.2⟩
  | some span =>
      rw [outerNoted] at first
      cases innerNoted : inner.get? ref with
      | none =>
          rw [innerNoted] at second
          exact ⟨first.1, first.2.1.trans second.symm, first.2.2⟩
      | some later =>
          rw [innerNoted] at second
          refine ⟨first.1, second.2.1, ?_⟩
          have := first.2.1
          have := first.2.2
          have := second.1
          have := second.2.2
          dsimp only
          omega

end Moved

namespace Handle

/-- The spans of an object that is not deleted lead from content to content, and what is
remembered of it leads back to the present one. -/
structure Steady (ref : Ref) (handle : Handle) : Prop where
  written : Layered (Moved ref) handle.written handle.saved handle.content
  undone : ∀ span, handle.undone.get? ref = some span →
    span.base = handle.content.standing ref ∧ span.base < span.latest

variable {ref : Ref}

theorem steady_start (content : Database) (tracked : Bool) (ids : IdSource) (now : Int) :
    (start content tracked ids now).Steady ref where
  written := .nil content
  undone _ found := (nomatch found)

variable {before after : Handle}

/-- What does not change the version of the object leaves the layers. -/
theorem layered_still {written : List VersionSpans} {contents : List Database}
    {now next : Database} (layers : Layered (Moved ref) written contents now)
    (same : next.standing ref = now.standing ref) :
    Layered (Moved ref) written contents next := by
  cases layers with
  | nil => exact .nil next
  | cons inner outer => exact .cons (inner.still same) outer

/-- An update is noted in the innermost scope, if one is open. -/
theorem layered_updated (steady : before.Steady ref) {record : Record} {next : Database}
    (moved : ∀ saved spans, Moved ref saved spans before.content →
      Moved ref saved (spans.note record.ref (record.version - 1) record.version) next) :
    Layered (Moved ref) (before.wrote (.updated record)).written before.saved next := by
  have layers := steady.written
  have noted : (before.wrote (.updated record)).written =
      (before.noteVersion record.ref (record.version - 1) record.version).written := rfl
  rw [noted, noteVersion]
  cases written : before.written with
  | nil =>
      rw [written] at layers
      generalize before.saved = contents at layers ⊢
      cases layers with
      | nil => exact .nil next
  | cons top below =>
      rw [written] at layers
      exact layers.step fun saved => moved saved top

namespace Steady

/-- A write that is no update of any object has to leave the version as it was. -/
theorem wrote_still (steady : before.Steady ref) {write : Write}
    (same : (write.apply before.now before.content).standing ref = before.content.standing ref)
    (written : (before.wrote write).written = before.written)
    (undone : (before.wrote write).undone = before.undone) : (before.wrote write).Steady ref := by
  rw [← before.content_wrote write] at same
  refine ⟨?_, fun span found => ?_⟩
  · rw [saved_wrote, written]
    exact layered_still steady.written same
  · rw [same]
    exact steady.undone span (undone ▸ found)

/-- An update moves the version of its object, and what was remembered of it is forgotten. -/
theorem wrote_updated (steady : before.Steady ref) {record : Record}
    (fits : (Write.updated record).Fits before.content) :
    (before.wrote (.updated record)).Steady ref := by
  have after := before.content_wrote (.updated record)
  refine ⟨?_, fun span found => ?_⟩
  · rw [saved_wrote, after]
    refine layered_updated steady fun saved spans moved => ?_
    by_cases here : ref = record.ref
    · subst here
      obtain ⟨old, new⟩ := Write.standing_apply_updated fits before.now
      exact moved.note old new
    · refine (moved.still (Write.standing_apply_of_ne fits before.now here)).of_get? ?_
      rw [VersionSpans.get?_note, if_neg here]
  · have erased : (before.wrote (.updated record)).undone = before.undone.erase record.ref := rfl
    rw [erased, SortedMap.get?_erase] at found
    split at found
    · cases found
    · rename_i other
      rw [after, Write.standing_apply_of_ne fits before.now other]
      exact steady.undone span found

theorem kept (steady : before.Steady ref) (lockstep : before.Lockstep) (opened : 0 < before.depth) :
    before.kept.Steady ref := by
  refine ⟨?_, steady.undone⟩
  have layers := steady.written
  rw [saved_of_dropped lockstep opened] at layers
  have spans : before.kept.written = joinInnermost before.written := rfl
  rw [content_kept, saved_kept, saved_of_dropped lockstep opened, List.tail_cons, spans]
  -- Only the outermost scope has none to join; its span is forgotten with its saved content.
  rcases written : before.written with _ | ⟨top, _ | ⟨parent, below⟩⟩
  · rw [written] at layers
    nomatch layers.length_eq
  · rw [written] at layers
    have outer := layers.dropped
    generalize before.dropped.saved = contents at outer ⊢
    cases outer with
    | nil => exact .nil before.content
  · rw [written] at layers
    exact layers.kept fun _ => Moved.trans

/-- What the innermost scope noted leads back to the content from which it set out, and so does
what was remembered before if the scope noted nothing. -/
theorem dropped (steady : before.Steady ref) (lockstep : before.Lockstep)
    (opened : 0 < before.depth) : before.dropped.Steady ref := by
  have layers := steady.written
  rw [saved_of_dropped lockstep opened] at layers
  have remembered : before.dropped.undone =
    before.undone.insertAll (before.written.head?.getD ∅) := rfl
  have spans : before.dropped.written = before.written.tail := rfl
  cases written : before.written with
  | nil =>
      rw [written] at layers
      nomatch layers.length_eq
  | cons top below =>
      rw [written] at layers remembered spans
      refine ⟨spans ▸ layers.dropped, fun span found => ?_⟩
      rw [remembered, SortedMap.get?_insertAll, Option.or_eq_some_iff] at found
      have moved := layers.inner
      rw [Moved] at moved
      rcases found with found | ⟨absent, found⟩
      · have noted : top.get? ref = some span := found
        rw [noted] at moved
        exact ⟨moved.1, moved.2.2⟩
      · have noted : top.get? ref = none := absent
        rw [noted] at moved
        exact moved ▸ steady.undone span found

end Steady

/-- **A deed that does not delete the object keeps its versions steady.** -/
theorem Does.steady {deed : Deed} (does : Does deed before after) (lockstep : before.Lockstep)
    (stays : deed ≠ .wrote (.deleted ref)) (steady : before.Steady ref) : after.Steady ref := by
  cases does with
  | quiet ids log => exact ⟨steady.written, steady.undone⟩
  | recorded _ change => exact ⟨steady.written, steady.undone⟩
  | @wrote _ write fits =>
      cases write with
      | inserted record =>
          exact steady.wrote_still (Write.standing_apply_inserted fits before.now ref) rfl rfl
      | deleted gone =>
          have other : ref ≠ gone := fun equal => stays (equal ▸ rfl)
          exact steady.wrote_still (Write.standing_apply_of_ne fits before.now other) rfl rfl
      | updated record => exact steady.wrote_updated fits
  | opened => exact ⟨steady.written.opened (.refl before.content), steady.undone⟩
  | kept opened => exact steady.kept lockstep opened
  | discarded opened => exact steady.dropped lockstep opened

/-- **The versions of an object that is never deleted stay steady.** -/
theorem Lockstep.steady_play {handle : Handle} (lockstep : handle.Lockstep)
    (steady : handle.Steady ref) (moves : List Move)
    (stays : .wrote (.deleted ref) ∉ handle.history moves) : (handle.play moves).Steady ref := by
  have now := lockstep.play_induction
    (motive := fun past handle => .wrote (.deleted ref) ∉ past → handle.Steady ref)
    (fun lockstep does steady stays => by
      rw [List.mem_append, not_or, List.mem_singleton] at stays
      exact does.steady lockstep (fun equal => stays.2 equal.symm) (steady stays.1))
    (fun _ => steady) moves
  exact now stays

end Handle

end ScopedStore
