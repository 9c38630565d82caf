import ScopedStore.Proofs.Bodies
import ScopedStore.Model.Change

/-!
# Changes on the wire

The object that is written for a change holds the change, the address and the fields of the object
side by side, and some of them twice. Reading takes them apart again exactly if the change is one
that operations of the store produce (`change_survives_wire`): what is read is always such a
change, so anything that can be read at all has one normal form, which is read as itself.

A version is an unbounded number in a record and a signed integer of 64 bits on the wire, so a
record has to have such a version; what is read has one.
-/

set_option autoImplicit false

namespace ScopedStore

namespace Record

/-- The version of the object is a signed integer of 64 bits. -/
def VersionFits (record : Record) : Prop := record.kind.VersionFits record.body

/-- **A record is read from every object that reflects its fields.** -/
theorem read_object {record : Record} (fits : record.VersionFits) {members : List (String × Json)}
    (increasing : Entries.Increasing members)
    (reflects : record.kind.described.fields.Reflects record.body
      fun name => Entries.lookup name members) :
    read record.kind (.object members) = .ok record := by
  have held := Json.Structure.read_object (Kind.fields_returns fits) increasing reflects
  rw [Kind.rebuild_fields] at held
  exact congrArg (Except.map (Record.mk record.kind)) held

theorem increasing_members (record : Record) : Entries.Increasing record.members :=
  Entries.increasing_insert _ _ (SortedMap.increasing _)

/-- A record that is read has the id that stands among the members, and a version that fits. -/
theorem of_read {kind : Kind} {members : List (String × Json)} {record : Record}
    (given : read kind (.object members) = .ok record) {id : String}
    (found : Entries.lookup "oid" members = some (.text id)) :
    record.ref = ⟨kind, id⟩ ∧ record.VersionFits := by
  rw [read] at given
  cases held : kind.bodyFormat.read (.object members) with
  | error fault => rw [held] at given; cases given
  | ok body =>
      rw [held] at given
      cases given
      obtain ⟨_, _, built⟩ := bind_eq_ok.1 held
      have id : kind.id body = id := kind.ensures_id found body built
      exact ⟨congrArg (Ref.mk kind) id, (kind.ensures_version _ body built).1⟩

end Record

namespace Change

/-- If an object is carried, its version is a signed integer of 64 bits. -/
def VersionFits (change : Change) : Prop := ∀ record ∈ change.record, record.VersionFits

/-! ## Writing -/

/-- The members that belong to no object. -/
theorem reserved_not_mem_names (kind : Kind) :
    actionMember ∉ kind.described.fields.names ∧
      Record.kindMember ∉ kind.described.fields.names := by
  cases kind <;> decide

/-- The object that is written for a written object, without the kind of change. -/
def carried (record : Record) : List (String × Json) :=
  Entries.erase actionMember <| Entries.insert idMember (.text record.id) <|
    Entries.insert Record.kindMember (.text record.kind.tag) <|
    Entries.insert actionMember (Action.format.write .update) record.members

theorem increasing_carried (record : Record) : Entries.Increasing (carried record) :=
  Entries.increasing_erase _ <| Entries.increasing_insert _ _ <|
    Entries.increasing_insert _ _ <| Entries.increasing_insert _ _ record.increasing_members

/-- The address that is written on top hides nothing of the object. -/
theorem reflects_carried (record : Record) :
    record.kind.described.fields.Reflects record.body
      fun name => Entries.lookup name (carried record) := by
  refine (record.kind.reflects_members record.body).congr fun name named => ?_
  have noAction : name ≠ actionMember := fun same =>
    (reserved_not_mem_names record.kind).1 (same ▸ named)
  have noKind : name ≠ Record.kindMember := fun same =>
    (reserved_not_mem_names record.kind).2 (same ▸ named)
  rw [carried, Entries.lookup_erase, if_neg noAction, Entries.lookup_insert]
  split
  · rename_i same
    rw [same]
    exact (record.kind.lookup_id record.body).symm
  · rw [Entries.lookup_insert, if_neg noKind, Entries.lookup_insert, if_neg noAction,
      Record.members, Entries.lookup_insert, if_neg noKind]

/-! ## Reading -/

section Read

variable {members : List (String × Json)} {ref : Ref}

/-- The members hold an action and an address. -/
structure Addresses (members : List (String × Json)) (action : Action) (ref : Ref) : Prop where
  action : Entries.lookup actionMember members = some (Action.format.write action)
  kind : Entries.lookup Record.kindMember members = some (.text ref.kind.tag)
  id : Entries.lookup idMember members = some (.text ref.id)

theorem addresses_write (action : Action) (ref : Ref) (rest : List (String × Json)) :
    Addresses (Entries.insert idMember (.text ref.id) <|
      Entries.insert Record.kindMember (.text ref.kind.tag) <|
      Entries.insert actionMember (Action.format.write action) rest) action ref where
  action := by simp [Entries.lookup_insert, actionMember, idMember, Record.kindMember]
  kind := by simp [Entries.lookup_insert, idMember, Record.kindMember]
  id := by simp [Entries.lookup_insert]

theorem Addresses.read_deleted (addresses : Addresses members .delete ref) :
    read (.object members) = .ok (.deleted ref) := by
  have named : Action.format.read (Action.format.write .delete) = .ok .delete := rfl
  simp [Change.read, readText, addresses.action, addresses.kind, addresses.id, named,
    Kind.ofTag?_tag, bind, Except.bind, pure, Except.pure]

theorem Addresses.read_updated (addresses : Addresses members .update ref) {record : Record}
    (held : Record.read ref.kind (.object (Entries.erase actionMember members)) = .ok record) :
    read (.object members) = .ok ⟨.update, ref, some record⟩ := by
  have named : Action.format.read (Action.format.write .update) = .ok .update := rfl
  simp [Change.read, readText, addresses.action, addresses.kind, addresses.id, named,
    Kind.ofTag?_tag, held, bind, Except.bind, pure, Except.pure]

end Read

theorem lookup_of_readText {name text : String} {members : List (String × Json)}
    (given : readText name members = .ok text) :
    Entries.lookup name members = some (.text text) := by
  unfold readText at given
  split at given
  · rename_i found
    cases given
    exact found
  · cases given
  · cases given

/-- **What is read is a change that operations of the store produce.** -/
theorem wellFormed_of_read {value : Json} {change : Change} (given : read value = .ok change) :
    change.WellFormed ∧ change.VersionFits := by
  cases value with
  | object members =>
      rw [read] at given
      split at given
      · obtain ⟨action, _, given⟩ := bind_eq_ok.1 given
        obtain ⟨tag, _, given⟩ := bind_eq_ok.1 given
        dsimp only at given
        cases named : Kind.ofTag? tag with
        | none =>
            rw [named] at given
            cases action <;> cases given
        | some kind =>
            rw [named] at given
            obtain ⟨_, same, given⟩ := bind_eq_ok.1 given
            cases same
            obtain ⟨id, text, given⟩ := bind_eq_ok.1 given
            cases action with
            | delete =>
                cases given
                exact ⟨.deleted _, nofun⟩
            | update =>
                obtain ⟨record, held, same⟩ := bind_eq_ok.1 given
                cases same
                have found := (Entries.lookup_erase actionMember idMember members).trans
                  ((if_neg (by decide)).trans (lookup_of_readText text))
                obtain ⟨address, fits⟩ := Record.of_read held found
                refine ⟨address ▸ .updated record, fun other same => ?_⟩
                cases same
                exact fits
      · cases given
  | null | bool _ | integer _ | double _ | text _ | array _ => cases given

/-- **What operations of the store produce is read as it was written.** -/
theorem read_write {change : Change} (wellFormed : change.WellFormed)
    (fits : change.VersionFits) : read change.write = .ok change := by
  cases wellFormed with
  | deleted ref => exact (addresses_write .delete ref []).read_deleted
  | updated record =>
      have held : Record.read record.kind (.object (carried record)) = .ok record :=
        Record.read_object (fits record rfl) (increasing_carried record) (reflects_carried record)
      exact (addresses_write .update record.ref record.members).read_updated held

end Change

/-- **Changes survive the wire.** A change is read as it was written exactly if it tells of a
written object under its own address, or of a deleted one without an object; and whatever is read
is such a change, so writing and reading it again gives it back, and its written form with it. -/
theorem change_survives_wire :
    (∀ change : Change,
      Change.read change.write = .ok change ↔ change.WellFormed ∧ change.VersionFits) ∧
    ∀ (value : Json) (change : Change), Change.read value = .ok change →
      change.WellFormed ∧ Change.read change.write = .ok change ∧
        (Change.read change.write).map Change.write = .ok change.write := by
  refine ⟨fun change => ⟨Change.wellFormed_of_read, fun good => ?_⟩, fun value change given => ?_⟩
  · exact Change.read_write good.1 good.2
  · obtain ⟨wellFormed, fits⟩ := Change.wellFormed_of_read given
    have again := Change.read_write wellFormed fits
    refine ⟨wellFormed, again, ?_⟩
    rw [again]
    rfl

/-- A tab whose version and list of blocks are left out, with a member that belongs to no field, is
read as a new tab, and the new tab survives the wire. -/
theorem sparse_tab_survives_wire :
    Change.read (.object [("junk", .null), ("name", .text "home"), ("oid", .text "t"),
        ("otype", .text "tab"), ("updatetype", .text "update")]) =
      .ok (.updated ⟨.tab, Tab.new "t" "home"⟩) ∧
    Change.read (Change.write (.updated ⟨.tab, Tab.new "t" "home"⟩)) =
      .ok (.updated ⟨.tab, Tab.new "t" "home"⟩) := by
  have given : Change.read (.object [("junk", .null), ("name", .text "home"), ("oid", .text "t"),
      ("otype", .text "tab"), ("updatetype", .text "update")]) =
        .ok (.updated ⟨.tab, Tab.new "t" "home"⟩) := by
    decide +kernel
  exact ⟨given, (change_survives_wire.2 _ _ given).2.1⟩

end ScopedStore
