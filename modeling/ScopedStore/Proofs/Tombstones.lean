import ScopedStore.Proofs.Listings
import ScopedStore.Proofs.Runs
import ScopedStore.Proofs.UndoneValues

/-!
# Tombstones

A deletion leaves a tombstone in the same database as the rows, so undoing the one undoes the
other. That makes the tombstones a record of the deletions that are in effect: where there were
none at first, there is one of each object with a deletion in effect and no other one, at every
point of every run (`tombstones_are_the_deletions_in_effect`). An object may be stored again after
it was deleted, and be deleted again; there is still one tombstone of it.

The other way round, an object that was there outside of all scopes can only have gone by a
deletion that is still in effect, so there is a tombstone of every object that has gone since
(`Becomes.buried_of_gone`).
-/

set_option autoImplicit false

namespace ScopedStore

namespace Becomes

variable {first now : Database} {writes : List Write}

/-! ## Tombstones of the deletions in effect -/

/-- **Each deletion among the writes has left a tombstone**, and nothing else has. -/
theorem exists_tombstones (becomes : Becomes first writes now) {begun : Tombstones}
    (held : first.tombstones = some begun) :
    ∃ tombstones, now.tombstones = some tombstones ∧
      ∀ key, key ∈ tombstones.keys ↔
        key ∈ begun.keys ∨ ∃ ref, .deleted ref ∈ writes ∧ key = .ofRef ref := by
  induction becomes with
  | nil => exact ⟨begun, held, fun key => by simp⟩
  | @cons write earlier middle rest fits time ih =>
      obtain ⟨tombstones, graves, inTable⟩ := ih
      refine ⟨write.graves time tombstones, ?_, fun key => ?_⟩
      · rw [Write.tombstones_apply fits, graves, Option.map_some]
      · cases write with
        | inserted record | updated record =>
            simpa [Write.graves] using inTable key
        | deleted ref =>
            rw [Write.graves, SortedMap.mem_keys_insert, inTable]
            simp only [List.mem_cons, Write.deleted.injEq]
            constructor
            · rintro (rfl | before | ⟨other, member, rfl⟩)
              · exact .inr ⟨ref, .inl rfl, rfl⟩
              · exact .inl before
              · exact .inr ⟨other, .inr member, rfl⟩
            · rintro (before | ⟨other, rfl | member, rfl⟩)
              · exact .inr (.inl before)
              · exact .inl rfl
              · exact .inr (.inr ⟨other, member, rfl⟩)

/-- **What has gone has its tombstone.** -/
theorem buried_of_gone (becomes : Becomes first writes now) {ref : Ref}
    (present : (first.row? ref).isSome) (gone : now.row? ref = none) : now.Buried ref := by
  induction becomes with
  | nil =>
      rw [gone] at present
      cases present
  | @cons write earlier middle rest fits time ih =>
      by_cases here : middle.row? ref = none
      · exact write.buried_apply time (ih here)
      · -- The row has gone with this write, so this write is the deletion.
        rw [Write.row?_apply fits] at gone
        split at gone
        · rename_i same
          cases write with
          | inserted record | updated record => cases gone
          | deleted other =>
              obtain rfl : ref = other := same
              exact Write.buried_apply_deleted fits time
        · exact absurd gone here

end Becomes

/-! ## Listing the tombstones -/

/-- What is made item by item is a list of what was made. -/
theorem exists_map_eq {α β : Type} {make : α → β} {items : List β}
    (made : ∀ item ∈ items, ∃ source, item = make source) :
    ∃ sources : List α, sources.map make = items := by
  induction items with
  | nil => exact ⟨[], rfl⟩
  | cons item items ih =>
      obtain ⟨⟨source, rfl⟩, others⟩ := List.forall_mem_cons.1 made
      obtain ⟨sources, rfl⟩ := ih others
      exact ⟨source :: sources, rfl⟩

namespace Repository

variable {database : Database} {tombstones : Tombstones}

/-- **The list of the tombstones is the list of the addresses of which they are made**, in the order
of the times of deletion. -/
theorem tombstones_eq_ok_iff (held : database.tombstones = some tombstones) {refs : List Ref} :
    Repository.tombstones database none = .ok refs ↔
      (tombstones.entries.mergeSort fun first second => decide (first.2 ≤ second.2)).map (·.1) =
        refs.map .ofRef := by
  have tabled : tombstoneTable database = .ok tombstones := by
    rw [tombstoneTable, Database.deletions, held]
    rfl
  have all : (tombstones.entries.filter fun entry =>
      (none : Option Kind).all fun kind => entry.1.tag == kind.tag) = tombstones.entries :=
    List.filter_eq_self.2 fun _ _ => rfl
  rw [Repository.tombstones, tabled]
  show List.mapM _ (List.mergeSort (List.filter _ _) _) = _ ↔ _
  rw [all, mapM_eq_ok_iff_forall₂, ← List.forall₂_eq_eq_eq, List.forall₂_map_left_iff,
    List.forall₂_map_right_iff]
  constructor
  · refine fun read => read.imp fun entry ref given => ?_
    obtain ⟨⟨tag, id⟩, time⟩ := entry
    dsimp only at given
    split at given
    · rename_i kind named
      cases given
      rw [TombstoneKey.ofRef, ← Kind.ofTag_eq_ok_iff.1 named]
    · cases given
  · refine fun keys => keys.imp fun entry ref same => ?_
    obtain ⟨key, time⟩ := entry
    have named : Kind.ofTag (TombstoneKey.ofRef ref).tag = .ok ref.kind :=
      Kind.ofTag_eq_ok_iff.2 rfl
    dsimp only at same ⊢
    rw [same, named]
    rfl

/-- Where every tombstone is that of an object, all of them are listed, each once. -/
theorem exists_tombstones (held : database.tombstones = some tombstones)
    (known : ∀ key ∈ tombstones.keys, ∃ ref, key = .ofRef ref) :
    ∃ refs, Repository.tombstones database none = .ok refs ∧ refs.Nodup ∧
      ∀ ref, ref ∈ refs ↔ .ofRef ref ∈ tombstones.keys := by
  let ordered := tombstones.entries.mergeSort fun first second => decide (first.2 ≤ second.2)
  have sameKeys : (ordered.map (·.1)).Perm tombstones.keys :=
    (List.mergeSort_perm tombstones.entries _).map _
  have injective : Function.Injective TombstoneKey.ofRef := fun _ _ => TombstoneKey.ofRef_inj.1
  obtain ⟨refs, addresses⟩ : ∃ refs : List Ref, refs.map .ofRef = ordered.map (·.1) :=
    exists_map_eq fun key member => known key (sameKeys.mem_iff.1 member)
  refine ⟨refs, (tombstones_eq_ok_iff held).2 addresses.symm, ?_, fun ref => ?_⟩
  · have different : (refs.map TombstoneKey.ofRef).Nodup := by
      rw [addresses]
      exact sameKeys.nodup_iff.2 tombstones.nodup_keys
    exact (List.pairwise_map.1 different).imp fun other same => other (congrArg _ same)
  · rw [← sameKeys.mem_iff, ← addresses, List.mem_map_of_injective injective]

end Repository

/-! ## At every point of a run -/

/-- The tombstones are those of the objects that have a property: the table has one entry for each
of them and no other one, and the list has each of them once. -/
structure Handle.Buries (handle : Handle) (gone : Ref → Prop) : Prop where
  table : ∃ tombstones, handle.content.tombstones = some tombstones ∧ tombstones.keys.Nodup ∧
    ∀ key, key ∈ tombstones.keys ↔ ∃ ref, gone ref ∧ key = .ofRef ref
  listed : ∃ refs, handle.tombstones = .ok refs ∧ refs.Nodup ∧ ∀ ref, ref ∈ refs ↔ gone ref

theorem Handle.buries {handle : Handle} {gone : Ref → Prop} {tombstones : Tombstones}
    (held : handle.content.tombstones = some tombstones)
    (exactly : ∀ key, key ∈ tombstones.keys ↔ ∃ ref, gone ref ∧ key = .ofRef ref) :
    handle.Buries gone where
  table := ⟨tombstones, held, tombstones.nodup_keys, exactly⟩
  listed := by
    obtain ⟨refs, listed, once, all⟩ := Repository.exists_tombstones held fun key member => by
      obtain ⟨ref, _, same⟩ := (exactly key).1 member
      exact ⟨ref, same⟩
    refine ⟨refs, mapError_eq_ok.2 listed, once, fun ref => ?_⟩
    rw [all, exactly]
    constructor
    · rintro ⟨other, buried, same⟩
      rwa [TombstoneKey.ofRef_inj.1 same]
    · exact fun buried => ⟨ref, buried, rfl⟩

/-- **The tombstones are the deletions in effect.** Take any run of transactions and scopes on a
database that began without tombstones. At every point of it there is one tombstone of each object
with a deletion that has succeeded and is still in effect, and no other one, and the list of them
has each once. And of every object that was there at an earlier point outside of all scopes, and
is not there now, there is one. -/
theorem tombstones_are_the_deletions_in_effect {first : Database}
    (unburied : first.tombstones = some ∅) (tracked : Bool) (ids : IdSource) (now : Int)
    (acts : List Act) :
    let start := Handle.start first tracked ids now
    let journal := Journal.blank.through (start.story acts)
    (start.live acts).Buries (fun ref => .deleted ref ∈ journal.inEffect) ∧
      ∀ past since, acts = past ++ since → (start.live past).depth = 0 →
        ∀ ref, ((start.live past).content.row? ref).isSome →
          (start.live acts).content.row? ref = none → .deleted ref ∈ journal.inEffect := by
  intro start journal
  have lives := (Handle.lives_start first tracked ids now).live acts
  obtain ⟨tombstones, held, exactly⟩ := lives.becomes.exists_tombstones unburied
  have buried (key : TombstoneKey) :
      key ∈ tombstones.keys ↔ ∃ ref, .deleted ref ∈ journal.inEffect ∧ key = .ofRef ref := by
    rw [exactly]
    exact or_iff_right List.not_mem_nil
  refine ⟨Handle.buries held buried, ?_⟩
  rintro past since rfl outside ref present gone
  have lockstep := ((Handle.lives_start first tracked ids now).live past).lockstep
  obtain ⟨writes, becomes⟩ := lockstep.becomes_since outside since
  rw [Handle.live_append] at gone held
  obtain ⟨found, there, member⟩ := becomes.buried_of_gone present gone
  cases held.symm.trans there
  obtain ⟨other, deleted, same⟩ := (buried _).1 ((tombstones.mem_keys_iff _).2 member)
  rwa [TombstoneKey.ofRef_inj.1 same]

/-- A tab was deleted, and in the next transaction it was stored again and its second deletion was
undone. Its one tombstone is that of the first deletion. -/
theorem tab_stored_again_keeps_tombstone :
    let start := Handle.start .withSample true default 0
    let acts : List Act := [.move .openScope, .move (.perform (.delete .tab "t")),
      .move .keepScope, .transact true default 1, .move .openScope,
      .move (.perform (.insert .tab (Tab.sample 1))), .move .openScope,
      .move (.perform (.delete .tab "t")), .move .discardScope]
    Database.withSample.tombstones = some ∅ ∧
      (start.live acts).content.row? ⟨.tab, "t"⟩ = some (Record.row ⟨.tab, Tab.sample 1⟩) ∧
      ∃ refs, (start.live acts).tombstones = .ok refs ∧ refs.Nodup ∧ ⟨.tab, "t"⟩ ∈ refs := by
  intro start acts
  have unburied : Database.withSample.tombstones = some ∅ := rfl
  obtain ⟨buries, _⟩ := tombstones_are_the_deletions_in_effect unburied true default 0 acts
  obtain ⟨refs, listed, once, all⟩ := buries.listed
  exact ⟨unburied, by decide +kernel, refs, listed, once, (all _).2 (by decide +kernel)⟩

end ScopedStore
