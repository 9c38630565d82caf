import ScopedStore.Model.Kind
import ScopedStore.Json.Structure

/-!
# References

An object is addressed by its kind and its id. The written form is the tag, a colon and the id;
since tags hold no colon, the first one ends the tag, and an id may hold any number of them. An
empty id has no written form that reads back.

References are ordered by kind, then by id.
-/

set_option autoImplicit false

namespace ScopedStore

/-- The address of an object: its kind, and its id among the objects of the kind. -/
structure Ref where
  kind : Kind
  id : String
  deriving DecidableEq, Repr, Inhabited

/-- Why a text is no reference: there is no colon, or nothing behind the first one, or the text in
front of the colon is no tag. -/
inductive RefError
  | malformed (text : String)
  | unknownKind (unknown : UnknownKind)
  deriving DecidableEq, Repr

namespace RefError

/-- The message of a text that is no reference. -/
def message : RefError → String
  | malformed text => "malformed object reference: " ++ Text.quoted text
  | unknownKind unknown => unknown.message

/-- The messages of what stands behind the error. -/
def causes : RefError → List String
  | malformed _ => []
  | unknownKind unknown => [unknown.message]

end RefError

namespace Ref

instance : Ord Ref := ⟨compareLex (compareOn kind) (compareOn id)⟩

instance : Std.TransOrd Ref :=
  inferInstanceAs (Std.TransCmp (compareLex (compareOn kind) (compareOn id)))

instance : Std.LawfulEqOrd Ref where
  eq_of_compare {first second} equal := by
    obtain ⟨kind, id⟩ := first
    obtain ⟨kind', id'⟩ := second
    change (compare kind kind').then (compare id id') = .eq at equal
    obtain ⟨sameKind, sameId⟩ := Ordering.then_eq_eq.1 equal
    rw [Std.LawfulEqOrd.eq_of_compare sameKind, Std.LawfulEqOrd.eq_of_compare sameId]

/-- The written form of a reference. -/
def display (ref : Ref) : String := ref.kind.tag ++ ":" ++ ref.id

/-- Reads the written form of a reference. -/
def parse (text : String) : Except RefError Ref :=
  let characters := text.toList
  let tag := String.ofList (characters.takeWhile (· != ':'))
  match characters.dropWhile (· != ':') with
  | _ :: first :: rest =>
      match Kind.ofTag tag with
      | .ok kind => .ok ⟨kind, String.ofList (first :: rest)⟩
      | .error unknown => .error (.unknownKind unknown)
  | _ => .error (.malformed text)

/-! ## As JSON -/

end Ref

/-- A kind as JSON is its tag. -/
def Kind.format : Json.Format Kind := .choice Kind.byTag Kind.tag

namespace Ref

open Json in
/-- A reference as a structure, under the name that messages give to it. -/
def described (title : String) : Structure Ref where
  title
  fields := Fields.build Ref.mk
    |>.andThen (.required "otype" Kind.format Ref.kind)
    |>.andThen (.required "oid" .text Ref.id)

/-- A reference as JSON. -/
def format : Json.Format Ref := (described "ORef").format

/-- The address of a deleted object as JSON. -/
def tombstoneFormat : Json.Format Ref := (described "WaveObjTombstone").format

end Ref

end ScopedStore
