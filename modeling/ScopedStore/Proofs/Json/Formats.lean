import ScopedStore.Json.Structure
import ScopedStore.Proofs.SortedMap

/-!
# Formats give back what they wrote

A format returns a value if reading what it wrote of the value gives that value
(`Format.Returns`). Scalars are returned, and lists, maps and absent values are if what they
consist of is.

**Structures.** A structure is read field by field, by the names of the fields. What else an
object holds does not matter, as long as the member under the name of every field is the one that
was written for it (`Fields.Reflects`): the fields are then read as they were, and a field that
was left out takes the value for which it was left out (`Structure.read_object`). So a structure
is returned if its fields are (`Structure.returns`), also after more members were added to it.
-/

set_option autoImplicit false

namespace ScopedStore.Json

namespace Format

variable {α : Type}

/-- Reading what was written of the value gives it back. -/
def Returns (format : Format α) (value : α) : Prop := format.read (format.write value) = .ok value

/-! ## Scalars -/

theorem text_lawful : text.Lawful := fun _ => rfl

theorem any_lawful : any.Lawful := fun _ => rfl

theorem bounded_returns {lowest limit value : Int} (expected : Expected) (above : lowest ≤ value)
    (below : value < limit) : (bounded lowest limit expected).Returns value :=
  if_pos ⟨above, below⟩

theorem int32_lawful : int32.Lawful := by
  intro value
  have read : (bounded (-Bounds.signed32) Bounds.signed32 .int32).Returns value.toInt :=
    bounded_returns .int32 value.le_toInt value.toInt_lt
  exact (congrArg (Except.map Int32.ofInt) read).trans (congrArg Except.ok value.ofInt_toInt)

theorem int64_lawful : int64.Lawful := by
  intro value
  have read : counter.Returns value.toInt := bounded_returns .int64 value.le_toInt value.toInt_lt
  exact (congrArg (Except.map Int64.ofInt) read).trans (congrArg Except.ok value.ofInt_toInt)

/-! ## Lists, maps and absent values -/

/-- Reading a list item by item gives what every item is read as. -/
theorem mapM_eq_ok {β : Type} {read : β → Except Fault α} {write : α → β} {values : List α}
    (returns : ∀ value ∈ values, read (write value) = .ok value) :
    (values.map write).mapM read = .ok values := by
  induction values with
  | nil => rfl
  | cons value values ih =>
      obtain ⟨here, there⟩ := List.forall_mem_cons.1 returns
      rw [List.map_cons, List.mapM_cons, here, ih there]
      rfl

theorem list_returns {item : Format α} {values : List α}
    (returns : ∀ value ∈ values, item.Returns value) : (list item).Returns values :=
  mapM_eq_ok returns

theorem map_returns {value : Format α} {held : SortedMap String α}
    (returns : ∀ entry ∈ held.entries, value.Returns entry.2) : (map value).Returns held := by
  have entries : (held.entries.map fun entry => (entry.1, value.write entry.2)).mapM
      (fun entry => return (entry.1, ← value.read entry.2)) = Except.ok held.entries := by
    refine mapM_eq_ok fun entry member => ?_
    dsimp only
    rw [show value.read (value.write entry.2) = .ok entry.2 from returns entry member]
    rfl
  have ordered : SortedMap.ofList held.entries = held := by
    refine SortedMap.ext_get? fun key => ?_
    rw [SortedMap.get?, SortedMap.ofList, Entries.lookup_insertAll key held.increasing,
      Entries.lookup_nil, Option.or_none, SortedMap.get?]
  exact (congrArg (Except.map SortedMap.ofList) entries).trans (congrArg Except.ok ordered)

theorem map_lawful {value : Format α} (lawful : value.Lawful) : (map value).Lawful :=
  fun _ => map_returns fun entry _ => lawful entry.2

theorem list_lawful {item : Format α} (lawful : item.Lawful) : (list item).Lawful :=
  fun _ => list_returns fun value _ => lawful value

/-- A value that is never written as null may be absent. -/
theorem optional_lawful {value : Format α} (lawful : value.Lawful)
    (present : ∀ inside, value.write inside ≠ .null) : (optional value).Lawful := by
  intro held
  cases held with
  | none => rfl
  | some inside =>
      have read : (optional value).read (value.write inside) =
          (value.read (value.write inside)).map some := by
        unfold optional
        dsimp only
        split
        · rename_i null
          exact absurd null (present inside)
        · rfl
      exact read.trans (congrArg (Except.map some) (lawful inside))

end Format

/-! ## Fields -/

/-- The field is read as it was written, or has the value for which it was left out. -/
def Field.Returns {σ α : Type} (field : Field σ α) (value : σ) : Prop :=
  if field.omits (field.get value) then field.fallback = some (field.get value)
  else field.format.Returns (field.get value)

section Field

variable {σ α : Type} {name : String} {format : Format α} {get : σ → α} {value : σ}

theorem Field.returns_required (returns : format.Returns (get value)) :
    (Field.required name format get).Returns value := returns

theorem Field.returns_defaulting (fallback : α) (returns : format.Returns (get value)) :
    (Field.defaulting name format get fallback).Returns value := returns

theorem Field.returns_omitting {fallback : α} {omits : α → Bool}
    (returns : format.Returns (get value))
    (leftOut : omits (get value) = true → get value = fallback) :
    (Field.omitting name format get fallback omits).Returns value := by
  unfold Field.Returns
  split
  · rename_i omitted
    exact congrArg some (leftOut omitted).symm
  · exact returns

end Field

namespace Fields

variable {σ α β : Type} {value : σ}

/-- What is built from the values of the fields. -/
def rebuild {α : Type} (value : σ) : Fields σ α → α
  | .build made => made
  | .andThen earlier field => earlier.rebuild value (field.get value)

/-- Every field is returned. -/
def Returns {α : Type} (value : σ) : Fields σ α → Prop
  | .build _ => True
  | .andThen earlier field => earlier.Returns value ∧ field.Returns value

/-- The member under the name of every field is the one that is written for it. -/
def Reflects {α : Type} (value : σ) (member : String → Option Json) : Fields σ α → Prop
  | .build _ => True
  | .andThen earlier field =>
      earlier.Reflects value member ∧
        member field.name = if field.omits (field.get value) then none
          else some (field.format.write (field.get value))

/-! ### Writing -/

theorem name_mem_names {fields : Fields σ α} {entry : String × Json}
    (member : entry ∈ fields.members value) : entry.1 ∈ fields.names := by
  induction fields with
  | build made => cases member
  | andThen earlier field ih =>
      rw [members] at member
      rw [names, List.mem_append, List.mem_singleton]
      split at member
      · exact .inl (ih member)
      · rcases List.mem_append.1 member with before | last
        · exact .inl (ih before)
        · exact .inr (congrArg Prod.fst (List.mem_singleton.1 last))

/-- Only the members under the names of the fields matter. -/
theorem Reflects.congr {member other : String → Option Json} {fields : Fields σ α}
    (reflects : fields.Reflects value member)
    (same : ∀ name ∈ fields.names, other name = member name) : fields.Reflects value other := by
  induction fields with
  | build made => exact trivial
  | andThen earlier field ih =>
      rw [names] at same
      refine ⟨ih reflects.1 fun name named => same name (List.mem_append_left _ named), ?_⟩
      rw [same field.name (List.mem_append_right _ List.mem_cons_self)]
      exact reflects.2

theorem lookup_ofList_concat {name : String} (members : List (String × Json)) (other : String)
    (inside : Json) :
    Entries.lookup name (SortedMap.ofList (members ++ [(other, inside)])).entries =
      if name = other then some inside
      else Entries.lookup name (SortedMap.ofList members).entries := by
  have last : (SortedMap.ofList (members ++ [(other, inside)])).entries =
      Entries.insert other inside (SortedMap.ofList members).entries :=
    List.foldl_append
  rw [last, Entries.lookup_insert]

/-- What is written for every field has the property. -/
def Each {α : Type} (property : Json → Prop) (value : σ) : Fields σ α → Prop
  | .build _ => True
  | .andThen earlier field =>
      earlier.Each property value ∧ property (field.format.write (field.get value))

theorem Each.members {property : Json → Prop} {fields : Fields σ α}
    (each : fields.Each property value) {entry : String × Json}
    (member : entry ∈ fields.members value) : property entry.2 := by
  induction fields with
  | build made => cases member
  | andThen earlier field ih =>
      rw [Fields.members] at member
      split at member
      · exact ih each.1 member
      · rcases List.mem_append.1 member with before | last
        · exact ih each.1 before
        · cases List.mem_singleton.1 last
          exact each.2

/-- **The members of a structure reflect its fields**, if these have different names. -/
theorem reflects_members {fields : Fields σ α} (distinct : fields.names.Nodup) :
    fields.Reflects value fun name =>
      Entries.lookup name (SortedMap.ofList (fields.members value)).entries := by
  induction fields with
  | build made => exact trivial
  | andThen earlier field ih =>
      obtain ⟨before, _, apart⟩ := List.nodup_append.1 distinct
      have new (name : String) (named : name ∈ earlier.names) : name ≠ field.name :=
        apart name named field.name List.mem_cons_self
      have absent :
          Entries.lookup field.name (SortedMap.ofList (earlier.members value)).entries = none :=
        Entries.lookup_eq_none fun entry member =>
          (new entry.1 (name_mem_names (SortedMap.mem_of_mem_ofList member))).symm
      rw [Reflects, members]
      split
      · exact ⟨ih before, absent⟩
      · refine ⟨(ih before).congr fun name named => ?_, ?_⟩
        · rw [lookup_ofList_concat, if_neg (new name named)]
        · rw [lookup_ofList_concat, if_pos rfl]

/-! ### Reading -/

variable {member : String → Option Json} {fields : Fields σ α}

/-- A member that is held has the form of the field of its name. -/
theorem Reflects.check (reflects : fields.Reflects value member) (returns : fields.Returns value)
    {name : String} {held : Json} (found : member name = some held) :
    fields.check name held = .ok () := by
  induction fields with
  | build made => rfl
  | andThen earlier field ih =>
      rw [Fields.check]
      split
      · rename_i named
        have written := reflects.2
        have returned := returns.2
        rw [named, found] at written
        unfold Field.Returns at returned
        split at written
        · cases written
        · rename_i kept
          rw [if_neg kept] at returned
          rw [Option.some.inj written, show field.format.read _ = _ from returned]
          rfl
      · exact ih reflects.1 returns.1

/-- **The fields are read as they were.** -/
theorem Reflects.fromMembers (reflects : fields.Reflects value member)
    (returns : fields.Returns value) : fields.fromMembers member = .ok (fields.rebuild value) := by
  induction fields with
  | build made => rfl
  | andThen earlier field ih =>
      have returned := returns.2
      unfold Field.Returns at returned
      rw [Fields.fromMembers, ih reflects.1 returns.1, reflects.2]
      split
      · rename_i inside written
        split at written
        · cases written
        · rename_i kept
          rw [if_neg kept] at returned
          rw [← Option.some.inj written, show field.format.read _ = _ from returned]
          rfl
      · rename_i absent
        split at absent
        · rename_i omitted
          rw [if_pos omitted] at returned
          rw [Field.absent, returned]
          rfl
        · cases absent

end Fields

/-! ## Structures -/

namespace Structure

variable {σ : Type} {description : Structure σ} {value : σ}

theorem forM_eq_ok {members : List (String × Json)} {check : String × Json → Except Fault Unit}
    (checks : ∀ entry ∈ members, check entry = .ok ()) : members.forM check = .ok () := by
  induction members with
  | nil => rfl
  | cons entry members ih =>
      obtain ⟨here, there⟩ := List.forall_mem_cons.1 checks
      exact (congrArg (fun checked : Except Fault Unit =>
        checked.bind fun _ => members.forM check) here).trans (ih there)

/-- **A structure is read from every object that reflects its fields.** -/
theorem read_object (returns : description.fields.Returns value)
    {members : List (String × Json)} (increasing : Entries.Increasing members)
    (reflects : description.fields.Reflects value fun name => Entries.lookup name members) :
    description.format.read (.object members) = .ok (description.fields.rebuild value) := by
  have checks : members.forM (fun entry => description.fields.check entry.1 entry.2) =
      .ok () :=
    forM_eq_ok fun entry member =>
      reflects.check returns (Entries.lookup_of_mem increasing member)
  exact (congrArg (fun checked : Except Fault Unit => checked.bind fun _ =>
    description.fields.fromMembers fun name => Entries.lookup name members) checks).trans
      (reflects.fromMembers returns)

/-- **A structure is returned if its fields are.** -/
theorem returns (returns : description.fields.Returns value)
    (distinct : description.fields.names.Nodup)
    (whole : description.fields.rebuild value = value) : description.format.Returns value := by
  refine (read_object returns (SortedMap.ofList _).increasing
    (Fields.reflects_members distinct)).trans ?_
  rw [whole]

end Structure

end ScopedStore.Json
