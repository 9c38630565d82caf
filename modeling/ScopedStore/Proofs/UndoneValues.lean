import ScopedStore.Proofs.Versions

/-!
# Updates with undone values

A caller whose update was undone holds a value with a version that is gone. The handle remembers
one span of versions for each object, that of the last discarded scope with an update of the
object in effect, so it can lead back only one version of those that callers may hold. A value
that was undone is taken exactly if its version, led back by that span, is the version of the
row. Where the object is never deleted the span begins at the row, and it is enough that the span
ends at the version of the value.

So a value is not taken any more as soon as a scope around the one in which it was written is
discarded with an earlier update of its own.
-/

set_option autoImplicit false

namespace ScopedStore

/-- Of the writes of its object among some deeds this one is the last. -/
def LastWrite (write : Write) (deeds : List Deed) : Prop :=
  ∃ earlier later, deeds = earlier ++ .wrote write :: later ∧
    ∀ other, .wrote other ∈ later → other.ref ≠ write.ref

/-- A value of a caller that was undone. It has the version that the last write of its object in a
scope has given to it, which was made inside that scope; the scope was discarded, and whatever was
written of the object since then is not in effect any more. -/
structure UndoneValue (start : Handle) {kind : Kind} (value : kind.Body) where
  before : List Move
  inside : List Move
  since : List Move
  nested : Nested inside
  record : Record
  ref_eq : record.ref = kind.ref value
  version_eq : record.version = kind.version value
  last : LastWrite (.updated record) ((start.play (before ++ [.openScope])).history inside)
  undone : ∀ write ∈ (Journal.blank.afterAll
      ((start.play (before ++ .openScope :: inside ++ [.discardScope])).history since)).inEffect,
    write.ref ≠ kind.ref value

namespace UndoneValue

variable {start : Handle} {kind : Kind} {value : kind.Body}

/-- All that was done. -/
def moves (undone : UndoneValue start value) : List Move :=
  undone.before ++ .openScope :: undone.inside ++ .discardScope :: undone.since

/-- The handle as it is now. -/
def present (undone : UndoneValue start value) : Handle := start.play undone.moves

/-- The deeds of all that was done. -/
def past (undone : UndoneValue start value) : List Deed := start.history undone.moves

/-- What is remembered of the object. -/
def remembered (undone : UndoneValue start value) : Option VersionSpan :=
  memory (kind.ref value) (Journal.blank.afterAll undone.past).entries

/-- The handle when the scope is discarded is in that scope. -/
theorem opened_inside (undone : UndoneValue start value) (lockstep : start.Lockstep) :
    0 < (start.play (undone.before ++ .openScope :: undone.inside)).depth := by
  have opened := Handle.Does.opened (start.play undone.before)
  have next := opened.lockstep (lockstep.play undone.before)
  have below := next.play_below undone.nested (Nat.zero_le _)
  rw [Handle.play_append, Handle.play_cons]
  have depth : ((start.play undone.before).openScope.play undone.inside).depth =
    (start.play undone.before).depth + 1 := below.depth
  exact depth ▸ Nat.succ_pos _

/-- The deeds in their parts. -/
theorem past_eq (undone : UndoneValue start value) (lockstep : start.Lockstep) :
    undone.past = start.history undone.before ++
      (.opened :: (start.play (undone.before ++ [.openScope])).history undone.inside ++
        .discarded :: (start.play (undone.before ++ .openScope :: undone.inside ++
          [.discardScope])).history undone.since) := by
  have closes : (start.play (undone.before ++ .openScope :: undone.inside)).deed .discardScope =
    .discarded := if_pos (undone.opened_inside lockstep)
  rw [past, moves, Handle.history_append, Handle.history_append, Handle.history_cons,
    Handle.history_cons, closes, List.append_assoc, Handle.play_append _ _ [.openScope],
    Handle.play_append _ _ [.discardScope]]
  rfl

theorem follows (undone : UndoneValue start value) (lockstep : start.Lockstep)
    (fresh : start.Follows .blank) :
    undone.present.Follows (Journal.blank.afterAll undone.past) :=
  lockstep.follows_play fresh undone.moves

/-- **An undone value is remembered by some span.** -/
theorem exists_span (undone : UndoneValue start value) (lockstep : start.Lockstep) :
    ∃ span, undone.remembered = some span := by
  obtain ⟨earlier, later, inside, _⟩ := undone.last
  have opened := Handle.Does.opened (start.play undone.before)
  have next := opened.lockstep (lockstep.play undone.before)
  have outside : Journal.blank.pages.length = 0 + 1 := rfl
  have pages := next.length_pages undone.nested (Nat.zero_le _) outside
  have scope : start.play (undone.before ++ [.openScope]) =
    (start.play undone.before).openScope := Handle.play_append _ _ _
  rw [← scope] at pages
  refine Option.ne_none_iff_exists'.1 ?_
  rw [remembered, undone.past_eq lockstep, Journal.afterAll_append, ← undone.ref_eq]
  refine Journal.memory_of_undone _ ?_ pages fun other member same => ?_
  · rw [inside]
    exact List.mem_append_right _ List.mem_cons_self
  · exact undone.undone _ member (same.trans undone.ref_eq)

end UndoneValue

/-- **When an undone value is taken again.** Some span of versions is remembered of its object,
and if the object has a row, the value is taken as the next version of that row exactly if its
version, led back by that span, is the one of the row; otherwise the versions are in conflict. If
the object was never deleted, the span begins at the row, and the value is taken exactly if the
span ends at its version or it has the version of the row anyway. -/
theorem undone_value_accepted_iff (database : Database) (tracked : Bool) (ids : IdSource)
    (now : Int) {kind : Kind} {value : kind.Body}
    (undone : UndoneValue (Handle.start database tracked ids now) value) {row : Row}
    (stored : undone.present.content.row? (kind.ref value) = some row) :
    ∃ span, undone.remembered = some span ∧
      (undone.present.Accepts kind value (row.version + 1) ↔
        leadBack (some span) (kind.version value) = row.version) ∧
      (¬undone.present.Accepts kind value (row.version + 1) →
        undone.present.update kind value = .error (.versionConflict (kind.ref value)
          (leadBack (some span) (kind.version value)) row.version)) ∧
      (.wrote (.deleted (kind.ref value)) ∉ undone.past →
        span.base = row.version ∧
        (undone.present.Accepts kind value (row.version + 1) ↔
          span.latest = kind.version value ∨ kind.version value = row.version)) := by
  have lockstep := Handle.lockstep_start database tracked ids now
  have follows := undone.follows lockstep (Handle.follows_start database tracked ids now)
  obtain ⟨span, remembered⟩ := undone.exists_span lockstep
  obtain ⟨accepts, conflict⟩ := follows.accepts_iff stored
  have known : memory (kind.ref value) (Journal.blank.afterAll undone.past).entries = some span :=
    remembered
  rw [known] at accepts conflict
  refine ⟨span, remembered, accepts, fun refused => conflict fun same => refused (accepts.2 same),
    fun stays => ?_⟩
  have steady := lockstep.steady_play (Handle.steady_start database tracked ids now) undone.moves
    stays
  -- Without deletions all that is remembered of the object leads back to its row.
  have base : span.base = row.version := by
    have found := (follows.undone (kind.ref value)).trans known
    exact (steady.undone span found).1.trans (Database.standing_of_row stored)
  refine ⟨base, accepts.trans ?_⟩
  rw [leadBack]
  by_cases own : span.latest = kind.version value
  · rw [if_pos own]
    exact ⟨fun _ => .inl own, fun _ => base⟩
  · rw [if_neg own]
    exact ⟨.inr, fun either => either.resolve_left own⟩

/-! ## Once and twice undone -/

/-- A tab in some version. -/
def Tab.sample (version : Int) : Tab := ⟨"t", version, "sample", []⟩

/-- A database with one tab in its first version. -/
def Database.withSample : Database := Database.vacant.put ⟨.tab, Tab.sample 1⟩

/-- The tab was updated in a scope, which was discarded. -/
def onceUndone : @UndoneValue (.start .withSample true default 0) .tab (Tab.sample 2) where
  before := [.openScope]
  inside := [.perform (.update .tab (Tab.sample 1))]
  since := []
  nested := by decide
  record := ⟨.tab, Tab.sample 2⟩
  ref_eq := rfl
  version_eq := rfl
  last := ⟨[], [], by decide +kernel, nofun⟩
  undone := by decide +kernel

/-- The tab was updated in a scope and once more in a scope inside it, and both were discarded. -/
def twiceUndone : @UndoneValue (.start .withSample true default 0) .tab (Tab.sample 3) where
  before := [.openScope, .openScope, .perform (.update .tab (Tab.sample 1))]
  inside := [.perform (.update .tab (Tab.sample 2))]
  since := [.discardScope]
  nested := by decide
  record := ⟨.tab, Tab.sample 3⟩
  ref_eq := rfl
  version_eq := rfl
  last := ⟨[], [], by decide +kernel, nofun⟩
  undone := by decide +kernel

/-- What was undone once is taken again. -/
theorem once_undone_value_is_taken :
    onceUndone.present.content.row? ⟨.tab, "t"⟩ = some (Record.row ⟨.tab, Tab.sample 1⟩) ∧
      onceUndone.present.Accepts .tab (Tab.sample 2) 2 := by
  have stored : onceUndone.present.content.row? ⟨.tab, "t"⟩ =
      some (Record.row ⟨.tab, Tab.sample 1⟩) := by decide +kernel
  obtain ⟨span, remembered, accepts, _⟩ :=
    undone_value_accepted_iff .withSample true default 0 onceUndone stored
  have known : onceUndone.remembered = some ⟨1, 2⟩ := by decide +kernel
  rw [known] at remembered
  cases remembered
  exact ⟨stored, accepts.2 rfl⟩

/-- What was undone twice is refused, though its object has its row and no later write of it is in
effect. -/
theorem twice_undone_value_is_refused :
    twiceUndone.present.content.row? ⟨.tab, "t"⟩ = some (Record.row ⟨.tab, Tab.sample 1⟩) ∧
      twiceUndone.present.update .tab (Tab.sample 3) =
        .error (.versionConflict ⟨.tab, "t"⟩ 3 1) := by
  have conflict : (twiceUndone.present.update .tab (Tab.sample 3)).map Prod.fst =
      .error (.versionConflict ⟨.tab, "t"⟩ 3 1) := by decide +kernel
  exact ⟨by decide +kernel, map_eq_error.1 conflict⟩

end ScopedStore
