import ScopedStore.Proofs.Json.Formats
import ScopedStore.Proofs.Json.ReadingBack
import ScopedStore.Proofs.StoredIds

/-!
# Objects as JSON

What is written of an object is read as the same object, if its version is a signed integer of 64
bits (`Kind.bodyFormat_returns`); and what is read has such a version (`Kind.ensures_version`).

As text the same holds of objects in whose free data every double is read back, up to the number
of levels that a store accepts (`Kind.parse?_write`). Only free data can be nested without bound,
so an object of another kind than a block is always read back.
-/

set_option autoImplicit false

namespace ScopedStore

open Json (Format Structure Fields)
open Json.Field (returns_required returns_defaulting returns_omitting)
open Json.Format (text_lawful any_lawful int32_lawful int64_lawful map_lawful list_lawful
  optional_lawful)

/-! ## Objects are returned -/

theorem Metadata.format_lawful : Metadata.format.Lawful := map_lawful any_lawful

theorem eq_empty_of_isEmpty {text : String} (empty : text.isEmpty = true) : text = "" := by
  simpa using empty

theorem SortedMap.eq_empty_of_isEmpty {β : Type} {map : SortedMap String β}
    (empty : map.isEmpty = true) : map = ∅ :=
  SortedMap.eq_of_entries (List.isEmpty_iff.1 empty)

theorem Point.described_lawful : Point.described.format.Lawful := fun _ =>
  Structure.returns ⟨⟨trivial, returns_required (int32_lawful _)⟩,
    returns_required (int32_lawful _)⟩ (by decide) rfl

theorem WindowSize.described_lawful : WindowSize.described.format.Lawful := fun _ =>
  Structure.returns ⟨⟨trivial, returns_required (int32_lawful _)⟩,
    returns_required (int32_lawful _)⟩ (by decide) rfl

theorem TerminalSize.described_lawful : TerminalSize.described.format.Lawful := fun _ =>
  Structure.returns ⟨⟨trivial, returns_required (int32_lawful _)⟩,
    returns_required (int32_lawful _)⟩ (by decide) rfl

theorem RuntimeOptions.described_lawful : RuntimeOptions.described.format.Lawful := fun _ =>
  Structure.returns ⟨⟨trivial, returns_defaulting _ (TerminalSize.described_lawful _)⟩,
    returns_defaulting _ (WindowSize.described_lawful _)⟩ (by decide) rfl

theorem FileDefinition.described_lawful : FileDefinition.described.format.Lawful := by
  intro file
  refine Structure.returns ⟨⟨⟨⟨⟨trivial, ?_⟩, ?_⟩, ?_⟩, ?_⟩, ?_⟩ (by decide) rfl
  · exact returns_omitting (text_lawful _) eq_empty_of_isEmpty
  · exact returns_omitting (text_lawful _) eq_empty_of_isEmpty
  · exact returns_omitting (text_lawful _) eq_empty_of_isEmpty
  · exact returns_omitting (text_lawful _) eq_empty_of_isEmpty
  · exact returns_omitting (Metadata.format_lawful _) SortedMap.eq_empty_of_isEmpty

theorem BlockDefinition.described_lawful : BlockDefinition.described.format.Lawful := by
  intro definition
  refine Structure.returns ⟨⟨⟨⟨trivial, ?_⟩, ?_⟩, ?_⟩, ?_⟩ (by decide) rfl
  · exact returns_omitting (text_lawful _) eq_empty_of_isEmpty
  · exact returns_omitting (text_lawful _) eq_empty_of_isEmpty
  · exact returns_omitting (map_lawful FileDefinition.described_lawful _)
      SortedMap.eq_empty_of_isEmpty
  · exact returns_omitting (Metadata.format_lawful _) SortedMap.eq_empty_of_isEmpty

namespace Kind

variable {kind : Kind} {body : kind.Body}

/-- The version of the object is a signed integer of 64 bits. -/
def VersionFits (kind : Kind) (body : kind.Body) : Prop :=
  -Bounds.signed64 ≤ kind.version body ∧ kind.version body < Bounds.signed64

theorem fields_returns (fits : kind.VersionFits body) : kind.described.fields.Returns body := by
  have version : Format.counter.Returns (kind.version body) :=
    Format.bounded_returns .int64 fits.1 fits.2
  cases kind with
  | client =>
      exact ⟨⟨⟨trivial, returns_required (text_lawful _)⟩, returns_defaulting _ version⟩,
        returns_required (text_lawful _)⟩
  | window =>
      exact ⟨⟨⟨⟨⟨⟨⟨⟨trivial, returns_required (text_lawful _)⟩, returns_defaulting _ version⟩,
        returns_required (text_lawful _)⟩, returns_required (text_lawful _)⟩,
        returns_defaulting _ (map_lawful text_lawful _)⟩,
        returns_required (Point.described_lawful _)⟩,
        returns_required (WindowSize.described_lawful _)⟩, returns_defaulting _ (int64_lawful _)⟩
  | workspace =>
      exact ⟨⟨⟨⟨trivial, returns_required (text_lawful _)⟩, returns_defaulting _ version⟩,
        returns_defaulting _ (text_lawful _)⟩, returns_defaulting _ (list_lawful text_lawful _)⟩
  | tab =>
      exact ⟨⟨⟨⟨trivial, returns_required (text_lawful _)⟩, returns_defaulting _ version⟩,
        returns_defaulting _ (text_lawful _)⟩, returns_defaulting _ (list_lawful text_lawful _)⟩
  | block =>
      refine ⟨⟨⟨⟨⟨⟨⟨trivial, returns_required (text_lawful _)⟩, returns_defaulting _ version⟩,
        returns_defaulting _ (BlockDefinition.described_lawful _)⟩,
        returns_defaulting _ (text_lawful _)⟩, returns_defaulting _ (text_lawful _)⟩, ?_⟩, ?_⟩
      · exact returns_omitting (Metadata.format_lawful _) SortedMap.eq_empty_of_isEmpty
      · exact returns_omitting (optional_lawful RuntimeOptions.described_lawful nofun _)
          Option.isNone_iff_eq_none.1

theorem rebuild_fields (body : kind.Body) : kind.described.fields.rebuild body = body := by
  cases kind <;> rfl

/-- **What is written of an object is read as the same object.** -/
theorem bodyFormat_returns (fits : kind.VersionFits body) : kind.bodyFormat.Returns body :=
  Structure.returns (fields_returns fits) kind.names_nodup (rebuild_fields body)

end Kind

/-! ## Versions -/

namespace Json.Fields

variable {σ α : Type} {member : String → Option Json} {property : α → Prop}

/-- A property that holds whatever the number under the name of the field is. -/
theorem Ensures.andThen_counter {earlier : Fields σ (Int → α)} {name : String} {get : σ → Int}
    (ensures : earlier.Ensures member fun make => ∀ number : Int,
      -Bounds.signed64 ≤ number ∧ number < Bounds.signed64 →
      (∀ inside, member name = some inside → inside = .integer number) → property (make number)) :
    (earlier.andThen (.defaulting name .counter get 0)).Ensures member property := by
  intro value read
  obtain ⟨make, readEarlier, rest⟩ := bind_eq_ok.1 read
  have named : (Field.defaulting name Format.counter get 0).name = name := rfl
  rw [named] at rest
  split at rest
  · rename_i inside found
    obtain ⟨number, counted, built⟩ := bind_eq_ok.1 rest
    cases built
    cases inside with
    | integer held =>
        change (if _ then _ else _) = _ at counted
        split at counted
        · rename_i range
          cases counted
          refine ensures make readEarlier number range fun inside same => ?_
          exact (Option.some.inj (found.symm.trans same)).symm
        · cases counted
    | null | bool _ | double _ | text _ | array _ | object _ => cases counted
  · rename_i absent
    cases rest
    refine ensures make readEarlier 0 (by decide) fun inside same => ?_
    cases absent.symm.trans same

end Json.Fields

namespace Kind

open Json.Fields

/-- **The version of an object that is read is a signed integer of 64 bits**, and it is the number
under the name of the version, if there is one. -/
theorem ensures_version (kind : Kind) (member : String → Option Json) :
    kind.described.fields.Ensures member fun body => kind.VersionFits body ∧
      ∀ inside, member "version" = some inside → inside = .integer (kind.version body) := by
  cases kind with
  | client =>
      refine .andThen (.andThen_counter (.andThen (ensures_build ?_) _)) _
      exact fun _ _ range same _ => ⟨range, same⟩
  | window =>
      refine .andThen (.andThen (.andThen (.andThen (.andThen (.andThen
        (.andThen_counter (.andThen (ensures_build ?_) _)) _) _) _) _) _) _
      exact fun _ _ range same _ _ _ _ _ _ => ⟨range, same⟩
  | workspace =>
      refine .andThen (.andThen (.andThen_counter (.andThen (ensures_build ?_) _)) _) _
      exact fun _ _ range same _ _ => ⟨range, same⟩
  | tab =>
      refine .andThen (.andThen (.andThen_counter (.andThen (ensures_build ?_) _)) _) _
      exact fun _ _ range same _ _ => ⟨range, same⟩
  | block =>
      refine .andThen (.andThen (.andThen (.andThen (.andThen
        (.andThen_counter (.andThen (ensures_build ?_) _)) _) _) _) _) _
      exact fun _ _ range same _ _ _ _ _ => ⟨range, same⟩

end Kind

/-! ## What all parts of an object have in common -/

namespace Json

variable {σ : Type} {description : Structure σ} {value : σ} {property : Json → Prop}

/-- A property of values that arrays and objects have when their parts have it, and that everything
has that is not made of parts; only of numbers it may ask more. -/
structure Inherited (property : Json → Prop) : Prop where
  null : property .null
  text (value : String) : property (.text value)
  integer {number : Int} (range : IntegerRange number) : property (.integer number)
  array {items : List Json} (all : ∀ item ∈ items, property item) : property (.array items)
  object {members : List (String × Json)} (increasing : Entries.Increasing members)
    (all : ∀ entry ∈ members, property entry.2) : property (.object members)

theorem inherited_exact : Inherited Exact where
  null := ⟨trivial, trivial⟩
  text _ := ⟨trivial, trivial⟩
  integer := exact_integer
  array := exact_array
  object := exact_object

theorem integerRange_of_signed64 {number : Int} (above : -Bounds.signed64 ≤ number)
    (below : number < Bounds.signed64) : IntegerRange number := by
  refine ⟨above, ?_⟩
  simp only [Bounds.signed64, Bounds.unsigned64] at below ⊢
  omega

namespace Inherited

theorem fields (inherited : Inherited property) (each : description.fields.Each property value) :
    property (description.format.write value) :=
  inherited.object (SortedMap.ofList _).increasing fun _ member =>
    each.members (SortedMap.mem_of_mem_ofList member)

theorem map (inherited : Inherited property) {α : Type} {format : Format α}
    {held : SortedMap String α} (all : ∀ entry ∈ held.entries, property (format.write entry.2)) :
    property ((Format.map format).write held) := by
  refine inherited.object (List.pairwise_map.2 held.increasing) fun entry member => ?_
  obtain ⟨inside, held, rfl⟩ := List.mem_map.1 member
  exact all inside held

theorem texts (inherited : Inherited property) (texts : List String) :
    property ((Format.list .text).write texts) := by
  refine inherited.array fun item member => ?_
  obtain ⟨text, _, rfl⟩ := List.mem_map.1 member
  exact inherited.text text

theorem int32 (inherited : Inherited property) (number : Int32) :
    property (Format.int32.write number) := by
  have above := number.le_toInt
  have below := number.toInt_lt
  refine inherited.integer (integerRange_of_signed64 ?_ ?_)
  · simp only [Bounds.signed64]
    omega
  · simp only [Bounds.signed64]
    omega

theorem int64 (inherited : Inherited property) (number : Int64) :
    property (Format.int64.write number) :=
  inherited.integer (integerRange_of_signed64 number.le_toInt number.toInt_lt)

end Inherited

theorem Structure.depth_write_le {levels : Nat}
    (each : description.fields.Each (fun value => value.depth ≤ levels) value) :
    (description.format.write value).depth ≤ levels + 1 :=
  depth_object_le fun _ member => each.members (SortedMap.mem_of_mem_ofList member)

end Json

open Json

/-- Every value of free data has a property. -/
def Metadata.All (property : Json → Prop) (metadata : Metadata) : Prop :=
  ∀ entry ∈ metadata.entries, property entry.2

/-- Every value in the free data of an object, if it has any, has a property. -/
def Kind.FreeData (property : Json → Prop) : (kind : Kind) → kind.Body → Prop
  | .block, body => Metadata.All property (Block.metadata body) ∧
      Metadata.All property (Block.definition body).metadata ∧
      ∀ entry ∈ (Block.definition body).files.entries, Metadata.All property entry.2.metadata
  | _, _ => True

namespace Json.Inherited

variable {property : Json → Prop}

theorem windowSize (inherited : Inherited property) (size : WindowSize) :
    property (WindowSize.described.format.write size) :=
  inherited.fields ⟨⟨trivial, inherited.int32 _⟩, inherited.int32 _⟩

theorem fileDefinition (inherited : Inherited property) {file : FileDefinition}
    (all : file.metadata.All property) : property (FileDefinition.described.format.write file) :=
  inherited.fields ⟨⟨⟨⟨⟨trivial, inherited.text _⟩, inherited.text _⟩, inherited.text _⟩,
    inherited.text _⟩, inherited.map all⟩

theorem blockDefinition (inherited : Inherited property) {definition : BlockDefinition}
    (all : definition.metadata.All property)
    (files : ∀ entry ∈ definition.files.entries, entry.2.metadata.All property) :
    property (BlockDefinition.described.format.write definition) :=
  inherited.fields ⟨⟨⟨⟨trivial, inherited.text _⟩, inherited.text _⟩,
    inherited.map fun entry member => inherited.fileDefinition (files entry member)⟩,
    inherited.map all⟩

theorem runtimeOptions (inherited : Inherited property) (options : Option RuntimeOptions) :
    property ((Format.optional RuntimeOptions.described.format).write options) := by
  cases options with
  | none => exact inherited.null
  | some options =>
      have terminal : property (TerminalSize.described.format.write options.terminalSize) :=
        inherited.fields ⟨⟨trivial, inherited.int32 _⟩, inherited.int32 _⟩
      exact inherited.fields ⟨⟨trivial, terminal⟩, inherited.windowSize _⟩

/-- **What the free data of an object and its version have, the object as JSON has.** -/
theorem body (inherited : Inherited property) {kind : Kind} {body : kind.Body}
    (version : property (.integer (kind.version body))) (all : kind.FreeData property body) :
    property (kind.bodyFormat.write body) := by
  cases kind with
  | client =>
      exact inherited.fields ⟨⟨⟨trivial, inherited.text _⟩, version⟩, inherited.text _⟩
  | window =>
      have position : property (Point.described.format.write (Window.position body)) :=
        inherited.fields ⟨⟨trivial, inherited.int32 _⟩, inherited.int32 _⟩
      exact inherited.fields ⟨⟨⟨⟨⟨⟨⟨⟨trivial, inherited.text _⟩, version⟩, inherited.text _⟩,
        inherited.text _⟩, inherited.map fun _ _ => inherited.text _⟩, position⟩,
        inherited.windowSize _⟩, inherited.int64 _⟩
  | workspace | tab =>
      exact inherited.fields ⟨⟨⟨⟨trivial, inherited.text _⟩, version⟩, inherited.text _⟩,
        inherited.texts _⟩
  | block =>
      exact inherited.fields ⟨⟨⟨⟨⟨⟨⟨trivial, inherited.text _⟩, version⟩,
        inherited.blockDefinition all.2.1 all.2.2⟩, inherited.text _⟩, inherited.text _⟩,
        inherited.map all.1⟩, inherited.runtimeOptions _⟩

end Json.Inherited

/-! ## Objects without doubles -/

/-- Free data holds no doubles. -/
def Metadata.Plain (metadata : Metadata) : Prop := ∀ entry ∈ metadata.entries, entry.2.Plain

/-- The free data of an object, if it has any, holds no doubles. -/
def Kind.PlainData : (kind : Kind) → kind.Body → Prop
  | .block, body => Metadata.Plain (Block.metadata body) ∧
      Metadata.Plain (Block.definition body).metadata ∧
      ∀ entry ∈ (Block.definition body).files.entries, Metadata.Plain entry.2.metadata
  | _, _ => True

namespace Kind

variable {kind : Kind} {body : kind.Body}

theorem PlainData.exact (plain : kind.PlainData body) : kind.FreeData Json.Exact body := by
  cases kind with
  | block =>
      obtain ⟨here, defined, files⟩ := plain
      exact ⟨fun entry member => (here entry member).exact,
        fun entry member => (defined entry member).exact,
        fun file member entry inside => (files file member entry inside).exact⟩
  | client | window | workspace | tab => exact trivial

/-- Objects that are no blocks have no free data. -/
theorem freeData_of_noBlock {property : Json → Prop} (noBlock : kind ≠ .block) :
    kind.FreeData property body := by
  cases kind with
  | block => exact absurd rfl noBlock
  | client | window | workspace | tab => exact trivial

/-- **An object whose free data is exact is written exactly.** -/
theorem exact_write (fits : kind.VersionFits body) (exact : kind.FreeData Json.Exact body) :
    (kind.bodyFormat.write body).Exact :=
  inherited_exact.body (exact_integer (integerRange_of_signed64 fits.1 fits.2)) exact

/-- **Only blocks are nested deeply.** -/
theorem depth_write_le (kind : Kind) (body : kind.Body) (noBlock : kind ≠ .block) :
    (kind.bodyFormat.write body).depth ≤ 2 := by
  have zero (levels : Nat) : 0 ≤ levels := Nat.zero_le levels
  have ids (ids : List String) : ((Format.list .text).write ids).depth ≤ 1 := by
    refine depth_array_le fun item member => ?_
    obtain ⟨id, _, rfl⟩ := List.mem_map.1 member
    exact zero 0
  cases kind with
  | client => exact Structure.depth_write_le ⟨⟨⟨trivial, zero 1⟩, zero 1⟩, zero 1⟩
  | window =>
      have active : ((Format.map .text).write (Window.activeBlocks body)).depth ≤ 1 := by
        refine depth_object_le fun entry member => ?_
        obtain ⟨inside, _, rfl⟩ := List.mem_map.1 member
        exact zero 0
      have position : (Point.described.format.write (Window.position body)).depth ≤ 1 :=
        Structure.depth_write_le ⟨⟨trivial, zero 0⟩, zero 0⟩
      have size : (WindowSize.described.format.write (Window.size body)).depth ≤ 1 :=
        Structure.depth_write_le ⟨⟨trivial, zero 0⟩, zero 0⟩
      exact Structure.depth_write_le ⟨⟨⟨⟨⟨⟨⟨⟨trivial, zero 1⟩, zero 1⟩, zero 1⟩, zero 1⟩, active⟩,
        position⟩, size⟩, zero 1⟩
  | workspace => exact Structure.depth_write_le ⟨⟨⟨⟨trivial, zero 1⟩, zero 1⟩, zero 1⟩, ids _⟩
  | tab => exact Structure.depth_write_le ⟨⟨⟨⟨trivial, zero 1⟩, zero 1⟩, zero 1⟩, ids _⟩
  | block => exact absurd rfl noBlock

/-- **Whether the text of an object is read is a matter of its depth.** -/
theorem parse?_write (fits : kind.VersionFits body) (exact : kind.FreeData Json.Exact body) :
    Json.parse? (kind.bodyFormat.write body).render =
      if (kind.bodyFormat.write body).depth ≤ maxLevels then some (kind.bodyFormat.write body)
      else none :=
  Json.parse?_render (exact_write fits exact)

/-- **What is read of a stored object that is no block is the object**, whatever its version. -/
theorem eq_of_stored {again : kind.Body} {data : Json} (noBlock : kind ≠ .block)
    (parsed : Json.parse? (kind.bodyFormat.write body).render = some data)
    (read : kind.bodyFormat.read data = .ok again) : again = body := by
  obtain ⟨others, inside, rfl, found, agrees⟩ := (Json.echoes_of_parse? parsed).member
    (SortedMap.ofList _).increasing (kind.lookup_version body)
  obtain ⟨_, _, built⟩ := bind_eq_ok.1 read
  obtain ⟨fits, same⟩ := kind.ensures_version _ again built
  -- The version is read as an integer, and no integer is read as another one.
  have version : kind.version again = kind.version body := by
    rw [same inside found] at agrees
    rcases agrees with equal | ⟨double, other⟩
    · exact Json.integer.inj equal
    · cases other
  have fits : kind.VersionFits body := by rwa [VersionFits, version] at fits
  have depth := kind.depth_write_le body noBlock
  rw [parse?_write fits (freeData_of_noBlock noBlock), if_pos (Nat.le_trans depth (by decide))] at parsed
  cases parsed
  exact Except.ok.inj (read.symm.trans (bodyFormat_returns fits))

end Kind

end ScopedStore
