import ScopedStore.Decimal.Double
import ScopedStore.SortedMap

/-!
# JSON values

A JSON value is kept as its meaning, not as its text: integers of 64 bits are integers, every
other number is a double, and the members of an object stand in the order of their names. One
value then has one text, which is what makes stored bodies comparable.

The order of members is a property of values (`Json.Canonical`), not of the type: a value is a
tree of lists, and every function that builds an object from members in any order goes through
`Json.ofMembers`.
-/

set_option autoImplicit false

namespace ScopedStore

open Decimal

/-- A JSON value. A number is a signed or an unsigned integer of 64 bits, or else a double. -/
inductive Json
  | null
  | bool (value : Bool)
  | integer (value : Int)
  | double (value : Double)
  | text (value : String)
  | array (items : List Json)
  | object (members : List (String × Json))
  deriving Inhabited, Repr

namespace Json

/-! ## Equality -/

mutual

/-- Are two values the same? -/
def same : Json → Json → Bool
  | .null, .null => true
  | .bool first, .bool second => first == second
  | .integer first, .integer second => first == second
  | .double first, .double second => first == second
  | .text first, .text second => first == second
  | .array first, .array second => sameItems first second
  | .object first, .object second => sameMembers first second
  | _, _ => false

/-- Are two lists of values the same? -/
def sameItems : List Json → List Json → Bool
  | [], [] => true
  | item :: first, other :: second => item.same other && sameItems first second
  | _, _ => false

/-- Are two lists of members the same? -/
def sameMembers : List (String × Json) → List (String × Json) → Bool
  | [], [] => true
  | (name, value) :: first, (other, held) :: second =>
      name == other && value.same held && sameMembers first second
  | _, _ => false

end

mutual

theorem same_iff : ∀ first second : Json, first.same second = true ↔ first = second
  | .null, second => by cases second <;> simp [same]
  | .bool _, second => by cases second <;> simp [same]
  | .integer _, second => by cases second <;> simp [same]
  | .double _, second => by cases second <;> simp [same]
  | .text _, second => by cases second <;> simp [same]
  | .array items, second => by cases second <;> simp [same, sameItems_iff items]
  | .object members, second => by cases second <;> simp [same, sameMembers_iff members]

theorem sameItems_iff : ∀ first second : List Json, sameItems first second = true ↔ first = second
  | [], second => by cases second <;> simp [sameItems]
  | item :: first, second => by
      cases second <;> simp [sameItems, same_iff item, sameItems_iff first]

theorem sameMembers_iff :
    ∀ first second : List (String × Json), sameMembers first second = true ↔ first = second
  | [], second => by cases second <;> simp [sameMembers]
  | (_, value) :: first, second => by
      cases second <;> simp [sameMembers, same_iff value, sameMembers_iff first, Prod.ext_iff]

end

instance : DecidableEq Json := fun first second => decidable_of_iff _ (same_iff first second)

/-! ## Members -/

/-- The object with the given members, in any order; of two with one name the later one stays. -/
def ofMembers (members : List (String × Json)) : Json :=
  .object (SortedMap.ofList members).entries

/-- The member of an object under a name; other values have none. -/
def member? (name : String) : Json → Option Json
  | .object members => Entries.lookup name members
  | _ => none

/-! ## Canonical values -/

/-- The integers that a number of a JSON text can denote. -/
def IntegerRange (value : Int) : Prop := -Bounds.signed64 ≤ value ∧ value < Bounds.unsigned64

mutual

/-- Integers are in range and the members of every object stand in the order of their names. -/
def Canonical : Json → Prop
  | .null | .bool _ | .double _ | .text _ => True
  | .integer value => IntegerRange value
  | .array items => CanonicalItems items
  | .object members => Entries.Increasing members ∧ CanonicalMembers members

/-- Every value of the list is canonical. -/
def CanonicalItems : List Json → Prop
  | [] => True
  | item :: rest => item.Canonical ∧ CanonicalItems rest

/-- Every member has a canonical value. -/
def CanonicalMembers : List (String × Json) → Prop
  | [] => True
  | (_, value) :: rest => value.Canonical ∧ CanonicalMembers rest

end

/-! ## Nesting -/

mutual

/-- The number of arrays and objects around the innermost value. -/
def depth : Json → Nat
  | .array items => depthOfItems items + 1
  | .object members => depthOfMembers members + 1
  | _ => 0

/-- The greatest depth of a list of values. -/
def depthOfItems : List Json → Nat
  | [] => 0
  | item :: rest => max item.depth (depthOfItems rest)

/-- The greatest depth of a list of members. -/
def depthOfMembers : List (String × Json) → Nat
  | [] => 0
  | (_, value) :: rest => max value.depth (depthOfMembers rest)

end

end Json

end ScopedStore
