import ScopedStore.Json.Fault

/-!
# Kinds of objects

The store holds objects of five kinds. A kind has a tag, by which it is named in references, in
stored rows and on the wire, and the tags are exact: no other spelling names a kind.

Kinds are ordered as they are declared, which is not the order of their tags.
-/

set_option autoImplicit false

namespace ScopedStore

/-- The kinds of stored objects. -/
inductive Kind
  | client
  | window
  | workspace
  | tab
  | block
  deriving DecidableEq, Repr, Inhabited

/-- A tag, as it was given, that names no kind. -/
structure UnknownKind where
  tag : String
  deriving DecidableEq, Repr

/-- The message of an unknown tag. -/
def UnknownKind.message (unknown : UnknownKind) : String :=
  (Json.Fault.unknownKind unknown.tag).message

namespace Kind

/-- Every kind, in order. -/
def all : List Kind := [client, window, workspace, tab, block]

/-- The place of a kind in the order. -/
def rank : Kind → Nat
  | client => 0
  | window => 1
  | workspace => 2
  | tab => 3
  | block => 4

/-- The tag of a kind. -/
def tag : Kind → String
  | client => "client"
  | window => "window"
  | workspace => "workspace"
  | tab => "tab"
  | block => "block"

/-- The name of the table that holds the objects of a kind. -/
def tableName (kind : Kind) : String := "db_" ++ kind.tag

/-- The kinds by their tags. -/
def byTag : List (String × Kind) := all.map fun kind => (kind.tag, kind)

/-- The kind that a tag names. -/
def ofTag? (tag : String) : Option Kind := byTag.lookup tag

/-- The kind that a tag names, or the tag as unknown. -/
def ofTag (tag : String) : Except UnknownKind Kind :=
  match ofTag? tag with
  | some kind => .ok kind
  | none => .error ⟨tag⟩

/-- The tag of every kind names it. -/
theorem ofTag?_tag (kind : Kind) : ofTag? kind.tag = some kind := by
  cases kind <;> decide

/-- A tag names the kind that has it. -/
theorem ofTag?_eq_some_iff {tag : String} {kind : Kind} :
    ofTag? tag = some kind ↔ tag = kind.tag := by
  refine ⟨fun found => ?_, fun same => same ▸ kind.ofTag?_tag⟩
  obtain ⟨before, behind, split, _⟩ := List.lookup_eq_some_iff.1 found
  have member : (tag, kind) ∈ byTag := split ▸ List.mem_append_right before List.mem_cons_self
  obtain ⟨_, _, same⟩ := List.mem_map.1 member
  cases same
  rfl

theorem ofTag_eq_ok_iff {tag : String} {kind : Kind} :
    ofTag tag = .ok kind ↔ tag = kind.tag := by
  rw [← ofTag?_eq_some_iff, ofTag]
  cases ofTag? tag with
  | none => exact ⟨nofun, nofun⟩
  | some held => exact ⟨fun same => by cases same; rfl, fun same => by cases same; rfl⟩

instance : Ord Kind := ⟨compareOn rank⟩

instance : Std.TransOrd Kind := inferInstanceAs (Std.TransCmp (compareOn rank))

instance : Std.LawfulEqOrd Kind where
  eq_of_compare {first second} equal := by
    revert equal; cases first <;> cases second <;> decide

end Kind

end ScopedStore
