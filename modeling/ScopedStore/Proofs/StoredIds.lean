import ScopedStore.Proofs.Json.Formats
import ScopedStore.Proofs.Json.Rereading
import ScopedStore.Proofs.Writes

/-!
# Stored objects keep their ids

An object is stored as the text of its body, and what is read from that text need not be the same
object in all parts. But if an object is read from it at all, it has the id of the one that was
stored (`Kind.id_of_stored`), so it lives at the same address.
-/

set_option autoImplicit false

namespace ScopedStore

namespace Json.Fields

variable {σ α β : Type}

/-! ## Reading -/

/-- What is built from the members has the property. -/
def Ensures (member : String → Option Json) (property : α → Prop) (fields : Fields σ α) : Prop :=
  ∀ value, fields.fromMembers member = .ok value → property value

variable {member : String → Option Json} {property : α → Prop}

theorem ensures_build {value : α} (holds : property value) :
    (build value : Fields σ α).Ensures member property := by
  intro built read
  cases read
  exact holds

/-- A property that holds whatever the value of the field is. -/
theorem Ensures.andThen {earlier : Fields σ (β → α)}
    (ensures : earlier.Ensures member fun make => ∀ inside, property (make inside))
    (field : Field σ β) : (earlier.andThen field).Ensures member property := by
  intro value read
  obtain ⟨make, readEarlier, rest⟩ := bind_eq_ok.1 read
  split at rest
  · obtain ⟨inside, _, built⟩ := bind_eq_ok.1 rest
    cases built
    exact ensures make readEarlier inside
  · obtain ⟨inside, _, built⟩ := bind_eq_ok.1 rest
    cases built
    exact ensures make readEarlier inside

/-- A property that holds if the text under the name of the field is its value. -/
theorem Ensures.andThen_text {earlier : Fields σ (String → α)} {name text : String}
    (ensures : earlier.Ensures member fun make => property (make text))
    (found : member name = some (.text text)) (get : σ → String) :
    (earlier.andThen (.required name .text get)).Ensures member property := by
  intro value read
  obtain ⟨make, readEarlier, rest⟩ := bind_eq_ok.1 read
  have named : (Field.required name Format.text get).name = name := rfl
  rw [named, found] at rest
  cases rest
  exact ensures make readEarlier

end Json.Fields

namespace Kind

open Json.Fields

theorem names_nodup (kind : Kind) : kind.described.fields.names.Nodup := by
  cases kind <;> decide

/-- The members of an object reflect its fields. -/
theorem reflects_members (kind : Kind) (body : kind.Body) :
    kind.described.fields.Reflects body fun name =>
      Entries.lookup name (SortedMap.ofList (kind.described.fields.members body)).entries :=
  Json.Fields.reflects_members kind.names_nodup

/-- The id of an object is a text among its members. -/
theorem lookup_id (kind : Kind) (body : kind.Body) :
    Entries.lookup "oid" (SortedMap.ofList (kind.described.fields.members body)).entries =
      some (.text (kind.id body)) := by
  have reflects := kind.reflects_members body
  cases kind with
  | client => exact reflects.1.1.2
  | window => exact reflects.1.1.1.1.1.1.1.2
  | workspace => exact reflects.1.1.1.2
  | tab => exact reflects.1.1.1.2
  | block => exact reflects.1.1.1.1.1.1.2

/-- The version of an object is a number among its members. -/
theorem lookup_version (kind : Kind) (body : kind.Body) :
    Entries.lookup "version" (SortedMap.ofList (kind.described.fields.members body)).entries =
      some (.integer (kind.version body)) := by
  have reflects := kind.reflects_members body
  cases kind with
  | client => exact reflects.1.2
  | window => exact reflects.1.1.1.1.1.1.2
  | workspace => exact reflects.1.1.2
  | tab => exact reflects.1.1.2
  | block => exact reflects.1.1.1.1.1.2

/-- An object that is built from members with a text as their id has that id. -/
theorem ensures_id (kind : Kind) {member : String → Option Json} {id : String}
    (found : member "oid" = some (.text id)) :
    kind.described.fields.Ensures member fun body => kind.id body = id := by
  cases kind with
  | client =>
      refine .andThen (.andThen (.andThen_text (ensures_build ?_) found Client.id) _) _
      exact fun _ _ => rfl
  | window =>
      refine .andThen (.andThen (.andThen (.andThen (.andThen (.andThen (.andThen
        (.andThen_text (ensures_build ?_) found Window.id) _) _) _) _) _) _) _
      exact fun _ _ _ _ _ _ _ => rfl
  | workspace =>
      refine .andThen (.andThen (.andThen
        (.andThen_text (ensures_build ?_) found Workspace.id) _) _) _
      exact fun _ _ _ => rfl
  | tab =>
      refine .andThen (.andThen (.andThen (.andThen_text (ensures_build ?_) found Tab.id) _) _) _
      exact fun _ _ _ => rfl
  | block =>
      refine .andThen (.andThen (.andThen (.andThen (.andThen (.andThen
        (.andThen_text (ensures_build ?_) found Block.id) _) _) _) _) _) _
      exact fun _ _ _ _ _ _ => rfl

/-- **An object that is read from a stored body has the id of the one that was stored.** -/
theorem id_of_stored (kind : Kind) {body again : kind.Body} {data : Json}
    (parsed : Json.parse? (kind.bodyFormat.write body).render = some data)
    (read : kind.bodyFormat.read data = .ok again) : kind.id again = kind.id body := by
  obtain ⟨others, _, rfl, found, rfl⟩ := (Json.echoes_of_parse? parsed).member
    (SortedMap.ofList _).increasing (kind.lookup_id body)
  obtain ⟨_, _, built⟩ := bind_eq_ok.1 read
  exact kind.ensures_id found again built

end Kind

end ScopedStore
