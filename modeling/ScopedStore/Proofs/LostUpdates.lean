import ScopedStore.Proofs.FreshValues
import ScopedStore.Proofs.Runs

/-!
# Updates with values that others have overtaken

A caller may hold a value for as long as it likes, over any number of scopes and transactions, edit
it, and then update its object with it. The update is taken if the version of the value is that of
the row, or if the handle leads it back to that of the row. For an object that is never deleted the
version of the row grows with the updates in effect. So the value is taken exactly if as many
updates are in effect as when it was obtained, or if it has the version at which an undone update
that is still remembered has ended (`held_value_accepted_iff`).

As long as nothing is undone of what was in effect when the value was obtained, this is as it
should be: the value is taken exactly if nothing in effect was written of its object since. But
versions are used again after a scope was discarded. So a value whose own update was undone can
meet its version again, given to what another value has written, and then overwrites it
(`overtaken_value_is_taken`).
-/

set_option autoImplicit false

namespace ScopedStore

namespace Handle

variable {first : Database} {handle : Handle} {journal : Journal} {kind : Kind}
  {value : kind.Body}

/-- A move gives a value to its caller, who reads it, stores it or updates it. A value that was
stored or updated has the version that this has given to it. -/
inductive Obtains (handle : Handle) {kind : Kind} (value : kind.Body) : Move → Prop
  | read {id : String} (answer : (handle.perform (.get kind id)).1 = .ok (some value)) :
      Obtains handle value (.perform (.get kind id))
  | inserted {body : kind.Body} (answer : (handle.perform (.insert kind body)).1 = .ok value) :
      Obtains handle value (.perform (.insert kind body))
  | updated {body : kind.Body} (answer : (handle.perform (.update kind body)).1 = .ok value) :
      Obtains handle value (.perform (.update kind body))

/-- **A value has the version of its row when it is obtained.** -/
theorem Obtains.row (genuine : handle.content.Genuine) {move : Move}
    (obtains : handle.Obtains value move) :
    ∃ row, (handle.move move).content.row? (kind.ref value) = some row ∧
      kind.version value = row.version := by
  cases obtains with
  | read answer =>
      obtain ⟨row, stored, address, version⟩ := get_eq_ok genuine answer
      exact ⟨row, address ▸ stored, version⟩
  | inserted answer => exact ⟨_, row?_of_insert answer, rfl⟩
  | updated answer => exact ⟨_, row?_of_update answer, rfl⟩

/-- The versions of an object that is never deleted stay steady through all transactions. -/
theorem Lockstep.steady_live {ref : Ref} (lockstep : handle.Lockstep)
    (steady : handle.Steady ref) (acts : List Act)
    (stays : .did (.wrote (.deleted ref)) ∉ handle.story acts) : (handle.live acts).Steady ref := by
  refine lockstep.live_induction
    (motive := fun past handle => .did (.wrote (.deleted ref)) ∉ past → handle.Steady ref)
    ?_ ?_ (fun _ => steady) acts stays
  · intro past deed before after lockstep does steady stays
    rw [List.mem_append, not_or, List.mem_singleton] at stays
    exact does.steady lockstep (fun same => stays.2 (same ▸ rfl)) (steady stays.1)
  · intro past before tracked ids now _ _ _ _
    exact steady_start before.content tracked ids now

theorem Lockstep.genuine_live (lockstep : handle.Lockstep) (genuine : handle.Genuine)
    (acts : List Act) : (handle.live acts).Genuine := by
  refine lockstep.live_induction (motive := fun _ handle => handle.Genuine) ?_ ?_ genuine acts
  · intro past deed before after lockstep does genuine
    exact does.genuine lockstep genuine
  · intro past before tracked ids now _ _ genuine
    exact genuine_start (genuine _ List.mem_cons_self) tracked ids now

end Handle

/-- Where all that is remembered begins at a version, a version is led back to it exactly if
something that is remembered ends at it, or if it is that version itself. -/
theorem leadBack_eq_base_iff {remembered : Option VersionSpan} {base : Int}
    (begins : ∀ span, remembered = some span → span.base = base) (version : Int) :
    (leadBack remembered version = base ↔
        (∃ span, remembered = some span ∧ span.latest = version) ∨ version = base) ∧
      (leadBack remembered version ≠ base → leadBack remembered version = version) := by
  cases remembered with
  | none => simp [leadBack]
  | some span =>
      have begin := begins span rfl
      rw [leadBack]
      split
      · rename_i ends
        exact ⟨⟨fun _ => .inl ⟨span, rfl, ends⟩, fun _ => begin⟩, fun other => absurd begin other⟩
      · rename_i other
        simp [other]

/-- A value that a caller holds. It was given to the caller at some point of a run, and the run has
gone on since. The caller may have edited everything but its address and its version. -/
structure HeldValue (start : Handle) {kind : Kind} (value : kind.Body) where
  past : List Act
  given : kind.Body
  obtaining : Move
  obtained : (start.live past).Obtains given obtaining
  since : List Act
  ref_eq : kind.ref given = kind.ref value
  version_eq : kind.version given = kind.version value

namespace HeldValue

variable {start : Handle} {kind : Kind} {value : kind.Body}

/-- What was done until the value was obtained. -/
def actsThen (held : HeldValue start value) : List Act := held.past ++ [.move held.obtaining]

/-- All that was done. -/
def acts (held : HeldValue start value) : List Act := held.actsThen ++ held.since

/-- The handle as it is now. -/
def present (held : HeldValue start value) : Handle := start.live held.acts

/-- All that has happened. -/
def story (held : HeldValue start value) : List Happening := start.story held.acts

/-- The writes that were in effect when the value was obtained. -/
def inEffectThen (held : HeldValue start value) : List Write :=
  (Journal.blank.through (start.story held.actsThen)).inEffect

/-- The writes that are in effect. -/
def inEffectNow (held : HeldValue start value) : List Write :=
  (Journal.blank.through held.story).inEffect

/-- The writes that were made since the value was obtained and are in effect. -/
def inEffectSince (held : HeldValue start value) : List Write :=
  (Journal.blank.through ((start.live held.actsThen).story held.since)).inEffect

/-- What is remembered of the object. -/
def remembered (held : HeldValue start value) : Option VersionSpan :=
  memory (kind.ref value) (Journal.blank.through held.story).entries

section

variable (held : HeldValue start value) {first : Database}

theorem story_eq :
    held.story = start.story held.actsThen ++ (start.live held.actsThen).story held.since :=
  start.story_append held.actsThen held.since

/-- What was not written in a run is not in effect. -/
theorem not_inEffect {story : List Happening} {write : Write}
    (never : .did (.wrote write) ∉ story) : write ∉ (Journal.blank.through story).inEffect :=
  fun member => (Journal.mem_story_of_inEffect member).elim never List.not_mem_nil

theorem never_then (stays : .did (.wrote (.deleted (kind.ref value))) ∉ held.story) :
    .did (.wrote (.deleted (kind.ref value))) ∉ start.story held.actsThen := fun member =>
  stays (held.story_eq ▸ List.mem_append_left _ member)

/-- When the value was obtained it had the version of its row. -/
theorem row_then (lives : start.Lives first .blank) (genuine : start.Genuine) :
    ∃ row, (start.live held.actsThen).content.row? (kind.ref value) = some row ∧
      kind.version value = row.version := by
  have before := lives.lockstep.genuine_live genuine held.past
  have moved : start.live held.actsThen = (start.live held.past).move held.obtaining :=
    Handle.live_append _ _ _
  rw [moved, ← held.ref_eq, ← held.version_eq]
  exact held.obtained.row (before _ List.mem_cons_self)

/-- The version of the value counts the updates that were in effect when it was obtained. -/
theorem version_counts (lives : start.Lives first .blank) (genuine : start.Genuine)
    (stays : .did (.wrote (.deleted (kind.ref value))) ∉ held.story) :
    kind.version value = first.standing (kind.ref value) +
      updates (writesOf (kind.ref value) held.inEffectThen) := by
  obtain ⟨row, stored, version⟩ := held.row_then lives genuine
  rw [version, ← Database.standing_of_row stored]
  exact (lives.live held.actsThen).becomes.standing_eq (not_inEffect (held.never_then stays))

/-- The version of the row counts the updates that are in effect. -/
theorem standing_eq (lives : start.Lives first .blank)
    (stays : .did (.wrote (.deleted (kind.ref value))) ∉ held.story) :
    held.present.content.standing (kind.ref value) = first.standing (kind.ref value) +
      updates (writesOf (kind.ref value) held.inEffectNow) :=
  (lives.live held.acts).becomes.standing_eq (not_inEffect stays)

/-- What is in effect is what was written since, and some of what was in effect then. -/
theorem inEffectNow_eq (lives : start.Lives first .blank) :
    ∃ rest, held.inEffectNow = held.inEffectSince ++ rest ∧ rest <:+ held.inEffectThen := by
  have begun : (Journal.blank.through (start.story held.actsThen)).pages ≠ [] := by
    obtain ⟨page, outer, pages⟩ := (lives.live held.actsThen).layers.exists_record (by simp)
    simp [pages]
  have now := (Journal.extends_blank begun).through ((start.live held.actsThen).story held.since)
  rw [← Journal.through_append, ← held.story_eq] at now
  exact now.rest

/-- If nothing was undone of what was in effect then, and no update since is in effect, then
nothing is that was written of the object since: it had its row and could not be stored again. -/
theorem untouched_since (lives : start.Lives first .blank) (genuine : start.Genuine)
    (stays : .did (.wrote (.deleted (kind.ref value))) ∉ held.story)
    (nothingUndone : writesOf (kind.ref value) held.inEffectNow =
      writesOf (kind.ref value) (held.inEffectSince ++ held.inEffectThen))
    (noUpdate : updates (writesOf (kind.ref value) held.inEffectSince) = 0) :
    ∀ write ∈ held.inEffectSince, write.ref ≠ kind.ref value := by
  obtain ⟨rest, now, _⟩ := held.inEffectNow_eq lives
  have becomes := (lives.live held.acts).becomes
  have split : (Journal.blank.through (start.story held.acts)).inEffect =
      held.inEffectSince ++ rest := now
  rw [split] at becomes
  obtain ⟨middle, before, after⟩ := becomes.split
  have noDeletion : .deleted (kind.ref value) ∉ held.inEffectSince ++ rest :=
    now ▸ not_inEffect stays
  -- What is left of the writes then tells the same row as all of them.
  have stored : (middle.row? (kind.ref value)).isSome := by
    obtain ⟨row, found, _⟩ := held.row_then lives genuine
    have same : writesOf (kind.ref value) rest = writesOf (kind.ref value) held.inEffectThen := by
      simpa [now] using nothingUndone
    have rowThen := (lives.live held.actsThen).becomes.row?_eq (kind.ref value)
    rw [before.row?_eq, same]
    exact Option.isSome_of_mem (rowThen.symm.trans found)
  obtain ⟨_, notInserted⟩ := after.not_inserted
    (fun member => noDeletion (List.mem_append_left rest member)) stored
  intro write member same
  cases write with
  | inserted record => exact notInserted record member same
  | updated record =>
      obtain ⟨later, earlier, parts⟩ := List.append_of_mem (mem_writesOf.2 ⟨member, same⟩)
      rw [parts, updates_append, updates] at noUpdate
      omega
  | deleted gone =>
      have address : gone = kind.ref value := same
      exact noDeletion (List.mem_append_left rest (address ▸ member))

/-- No value is taken of an object that has no row. -/
theorem update_of_absent (lives : start.Lives first .blank) (genuine : start.Genuine)
    (absent : held.present.content.row? (kind.ref value) = none) :
    held.present.update kind value = .error (.notFound (kind.ref value)) := by
  obtain ⟨_, storedThen, _⟩ := held.row_then lives genuine
  obtain ⟨table, found, _⟩ := Database.table_of_row storedThen
  refine Handle.update_of_no_row ?_ absent
  have now : (held.present.content.tables.get? kind).isSome = _ :=
    (lives.live held.acts).becomes.isSome_table kind
  rw [now, ← (lives.live held.actsThen).becomes.isSome_table]
  exact Option.isSome_of_mem found

end

/-! ## When a held value is taken -/

section

variable (held : HeldValue start value) {first : Database} {row : Row}
  (lives : start.Lives first .blank) (genuine : start.Genuine)
  (steady : start.Steady (kind.ref value))
  (stays : .did (.wrote (.deleted (kind.ref value))) ∉ held.story)
  (stored : held.present.content.row? (kind.ref value) = some row)

include lives steady stays stored

/-- An undone update that is remembered began at the row. -/
theorem remembered_begins {span : VersionSpan} (known : held.remembered = some span) :
    span.base = row.version ∧ span.base < span.latest := by
  have now : held.present.Steady (kind.ref value) :=
    lives.lockstep.steady_live steady held.acts stays
  rw [← Database.standing_of_row stored]
  exact now.undone span (((lives.live held.acts).follows.undone (kind.ref value)).trans known)

/-- A held value that is not taken is reported with its own version, and nothing changes. -/
theorem conflict_of_not_accepts (refused : ¬held.present.Accepts kind value (row.version + 1)) :
    held.present.update kind value =
        .error (.versionConflict (kind.ref value) (kind.version value) row.version) ∧
      (held.present.perform (.update kind value)).2 = held.present := by
  obtain ⟨accepts, conflict⟩ := (lives.live held.acts).follows.accepts_iff stored
  have other : leadBack held.remembered (kind.version value) ≠ row.version :=
    fun same => refused (accepts.2 same)
  have failed : held.present.update kind value = .error (.versionConflict (kind.ref value)
      (leadBack held.remembered (kind.version value)) row.version) := conflict other
  have notLed := (leadBack_eq_base_iff
    (fun _ known => (held.remembered_begins lives steady stays stored known).1)
    (kind.version value)).2 other
  rw [notLed] at failed
  exact ⟨failed, by rw [Handle.perform, failed]; rfl⟩

include genuine

/-- **A held value is taken** for the sake of what is remembered, or of the updates in effect. -/
theorem accepts_iff : held.present.Accepts kind value (row.version + 1) ↔
    (∃ span, held.remembered = some span ∧ span.latest = kind.version value) ∨
      updates (writesOf (kind.ref value) held.inEffectNow) =
        updates (writesOf (kind.ref value) held.inEffectThen) := by
  have accepts : held.present.Accepts kind value (row.version + 1) ↔ _ :=
    ((lives.live held.acts).follows.accepts_iff stored).1
  have ledBack := (leadBack_eq_base_iff
    (fun _ known => (held.remembered_begins lives steady stays stored known).1)
    (kind.version value)).1
  refine (accepts.trans ledBack).trans (or_congr_right ?_)
  have version := held.version_counts lives genuine stays
  have standing := held.standing_eq lives stays
  rw [Database.standing_of_row stored] at standing
  omega

/-- Where nothing was undone of what was in effect then, **a held value is taken exactly if nobody
has overtaken it**. -/
theorem accepts_iff_untouched (nothingUndone : writesOf (kind.ref value) held.inEffectNow =
      writesOf (kind.ref value) (held.inEffectSince ++ held.inEffectThen)) :
    held.present.Accepts kind value (row.version + 1) ↔
      ∀ write ∈ held.inEffectSince, write.ref ≠ kind.ref value := by
  have taken := held.accepts_iff lives genuine steady stays stored
  have parts := congrArg updates nothingUndone
  rw [writesOf_append, updates_append] at parts
  constructor
  · intro accepted
    refine held.untouched_since lives genuine stays nothingUndone ?_
    rcases taken.1 accepted with ⟨span, known, ends⟩ | same
    · -- An undone update that ended at the version would have begun at the row, below it.
      have begins := held.remembered_begins lives steady stays stored known
      have version := held.version_counts lives genuine stays
      have standing := held.standing_eq lives stays
      rw [Database.standing_of_row stored] at standing
      omega
    · omega
  · intro none
    have empty : writesOf (kind.ref value) held.inEffectSince = [] :=
      List.filter_eq_nil_iff.2 fun write member => by simpa using none write member
    rw [empty, updates] at parts
    exact taken.2 (.inr (by omega))

end

end HeldValue

/-- **When a value is taken that was obtained some time ago.** Let an object be never deleted in a
run. If it has no row, there is nothing to update. If it has one, a value of it, edited or not, is
taken exactly if an undone update is remembered that ended at the version of the value, or as many
updates of the object are in effect as when the value was obtained; otherwise the versions are in
conflict, and nothing changes. If nothing was undone of what was in effect when the value was
obtained, it is taken exactly if nothing in effect was written of the object since. -/
theorem held_value_accepted_iff {database : Database} (written : database.Written)
    (tracked : Bool) (ids : IdSource) (now : Int) {kind : Kind} {value : kind.Body}
    (held : HeldValue (.start database tracked ids now) value)
    (stays : .did (.wrote (.deleted (kind.ref value))) ∉ held.story) :
    let ref := kind.ref value
    (held.present.content.row? ref = none →
      held.present.update kind value = .error (.notFound ref)) ∧
    ∀ row, held.present.content.row? ref = some row →
      (held.present.Accepts kind value (row.version + 1) ↔
        (∃ span, held.remembered = some span ∧ span.latest = kind.version value) ∨
          updates (writesOf ref held.inEffectNow) = updates (writesOf ref held.inEffectThen)) ∧
      (¬held.present.Accepts kind value (row.version + 1) →
        held.present.update kind value =
            .error (.versionConflict ref (kind.version value) row.version) ∧
          (held.present.perform (.update kind value)).2 = held.present) ∧
      (writesOf ref held.inEffectNow = writesOf ref (held.inEffectSince ++ held.inEffectThen) →
        (held.present.Accepts kind value (row.version + 1) ↔
          ∀ write ∈ held.inEffectSince, write.ref ≠ ref)) := by
  have lives := Handle.lives_start database tracked ids now
  have genuine := Handle.genuine_start written.genuine tracked ids now
  have steady : (Handle.start database tracked ids now).Steady (kind.ref value) :=
    Handle.steady_start database tracked ids now
  refine ⟨held.update_of_absent lives genuine, fun row stored => ⟨?_, ?_, ?_⟩⟩
  · exact held.accepts_iff lives genuine steady stays stored
  · exact held.conflict_of_not_accepts lives steady stays stored
  · exact held.accepts_iff_untouched lives genuine steady stays stored

/-! ## Taken rightly and wrongly -/

/-- A tab was stored, and then another value of it was written in a scope that was discarded. The
caller has given the tab a name since. -/
def notOvertaken :
    @HeldValue (.start .vacant true default 0) .tab { Tab.sample 1 with name := "own" } where
  past := [.move .openScope]
  given := Tab.sample 1
  obtaining := .perform (.insert .tab (Tab.sample 0))
  obtained := .inserted (by decide +kernel)
  since := [.move .keepScope, .transact true default 0, .move .openScope, .move .openScope,
    .move (.perform (.update .tab { Tab.sample 1 with name := "other" })), .move .discardScope]
  ref_eq := rfl
  version_eq := rfl

/-- A tab was written in a scope that was discarded, and then another value of it was written, which
got the version that was undone. -/
def overtaken : @HeldValue (.start .withSample true default 0) .tab (Tab.sample 2) where
  past := [.move .openScope, .move .openScope]
  given := Tab.sample 2
  obtaining := .perform (.update .tab (Tab.sample 1))
  obtained := .updated (by decide +kernel)
  since := [.move .discardScope,
    .move (.perform (.update .tab { Tab.sample 1 with name := "other" }))]
  ref_eq := rfl
  version_eq := rfl

/-- What nobody has overtaken is taken, in a later transaction and after something was undone. -/
theorem value_not_overtaken_is_taken :
    .did (.wrote (.deleted ⟨.tab, "t"⟩)) ∉ notOvertaken.story ∧
      notOvertaken.present.content.row? ⟨.tab, "t"⟩ = some (Record.row ⟨.tab, Tab.sample 1⟩) ∧
      notOvertaken.present.Accepts .tab { Tab.sample 1 with name := "own" } 2 := by
  have stays : .did (.wrote (.deleted ⟨.tab, "t"⟩)) ∉ notOvertaken.story := by decide +kernel
  have stored : notOvertaken.present.content.row? ⟨.tab, "t"⟩ =
      some (Record.row ⟨.tab, Tab.sample 1⟩) := by decide +kernel
  obtain ⟨_, _, whenKept⟩ :=
    (held_value_accepted_iff .vacant true default 0 notOvertaken stays).2 _ stored
  refine ⟨stays, stored, (whenKept ?_).2 ?_⟩
  · decide +kernel
  · decide +kernel

/-- What was undone is taken as the successor of what another value has written since. -/
theorem overtaken_value_is_taken :
    .did (.wrote (.deleted ⟨.tab, "t"⟩)) ∉ overtaken.story ∧
      .updated ⟨.tab, { Tab.sample 2 with name := "other" }⟩ ∈ overtaken.inEffectSince ∧
      (overtaken.present.update .tab (Tab.sample 2)).map Prod.fst = .ok (Tab.sample 3) := by
  refine ⟨?_, ?_, ?_⟩
  · decide +kernel
  · decide +kernel
  · decide +kernel

end ScopedStore
