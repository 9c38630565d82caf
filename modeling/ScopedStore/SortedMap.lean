/-!
# Finite maps in key order

A finite map is kept as the list of its entries with strictly increasing keys. One map then
has one representation, a listing of it is in key order without further work, and no key can
occur twice.

The operations are first defined on bare entry lists, where they need no proof and can be used
inside other data types (`Entries`); `SortedMap` couples a list with the evidence that its
keys increase.
-/

set_option autoImplicit false

namespace ScopedStore

universe u v w

/-! ## Bare entry lists -/

namespace Entries

variable {κ : Type u} {β : Type v} [Ord κ]

/-- The keys of the entries strictly increase. -/
def Increasing (entries : List (κ × β)) : Prop :=
  entries.Pairwise fun earlier later => compare earlier.1 later.1 = .lt

/-- The value of the first entry under `key`. -/
def lookup (key : κ) : List (κ × β) → Option β
  | [] => none
  | (other, value) :: rest =>
      match compare key other with
      | .eq => some value
      | _ => lookup key rest

/-- Puts an entry in front of the first larger key, in the place of an entry with an equal key. -/
def insert (key : κ) (value : β) : List (κ × β) → List (κ × β)
  | [] => [(key, value)]
  | (other, held) :: rest =>
      match compare key other with
      | .lt => (key, value) :: (other, held) :: rest
      | .eq => (key, value) :: rest
      | .gt => (other, held) :: insert key value rest

/-- Leaves out every entry under `key`. -/
def erase (key : κ) (entries : List (κ × β)) : List (κ × β) :=
  entries.filter fun entry => compare key entry.1 != .eq

/-- Inserts the entries of a list one after the other. -/
def insertAll (added : List (κ × β)) (entries : List (κ × β)) : List (κ × β) :=
  added.foldl (fun held entry => insert entry.1 entry.2 held) entries

theorem mem_insert {key : κ} {value : β} {entry : κ × β} {entries : List (κ × β)}
    (member : entry ∈ insert key value entries) : entry = (key, value) ∨ entry ∈ entries := by
  induction entries with
  | nil => simpa [insert] using member
  | cons head rest ih =>
      obtain ⟨other, held⟩ := head
      rw [insert] at member
      split at member
      · simpa using member
      · rcases List.mem_cons.1 member with same | inRest
        · exact .inl same
        · exact .inr (List.mem_cons_of_mem _ inRest)
      · rcases List.mem_cons.1 member with same | inRest
        · exact .inr (same ▸ List.mem_cons_self)
        · rcases ih inRest with new | old
          · exact .inl new
          · exact .inr (List.mem_cons_of_mem _ old)

theorem increasing_insert [Std.TransOrd κ] (key : κ) (value : β) {entries : List (κ × β)}
    (increasing : Increasing entries) : Increasing (insert key value entries) := by
  induction entries with
  | nil => simp [insert, Increasing]
  | cons head rest ih =>
      obtain ⟨other, held⟩ := head
      obtain ⟨above, tail⟩ := List.pairwise_cons.1 increasing
      rw [insert]
      split
      · rename_i smaller
        refine List.pairwise_cons.2 ⟨fun entry member => ?_, increasing⟩
        rcases List.mem_cons.1 member with rfl | inRest
        · exact smaller
        · exact Std.TransCmp.lt_trans smaller (above entry inRest)
      · rename_i equal
        exact List.pairwise_cons.2
          ⟨fun entry member => Std.TransCmp.lt_of_eq_of_lt equal (above entry member), tail⟩
      · rename_i larger
        refine List.pairwise_cons.2 ⟨fun entry member => ?_, ih tail⟩
        rcases mem_insert member with rfl | inRest
        · exact Std.OrientedCmp.lt_of_gt larger
        · exact above entry inRest

theorem increasing_erase (key : κ) {entries : List (κ × β)} (increasing : Increasing entries) :
    Increasing (erase key entries) :=
  List.Pairwise.sublist List.filter_sublist increasing

theorem increasing_insertAll [Std.TransOrd κ] (added : List (κ × β)) {entries : List (κ × β)}
    (increasing : Increasing entries) : Increasing (insertAll added entries) := by
  induction added generalizing entries with
  | nil => exact increasing
  | cons entry rest ih => exact ih (increasing_insert entry.1 entry.2 increasing)

end Entries

/-! ## Maps -/

/-- A finite map: entries whose keys strictly increase, so that no key occurs twice. -/
structure SortedMap (κ : Type u) (β : Type v) [Ord κ] where
  entries : List (κ × β)
  increasing : Entries.Increasing entries

namespace SortedMap

variable {κ : Type u} {β : Type v} {γ : Type w} [Ord κ]

/-- Maps with the same entries are the same map. -/
theorem eq_of_entries {first second : SortedMap κ β} (same : first.entries = second.entries) :
    first = second := by
  cases first; cases second; cases same; rfl

instance [DecidableEq κ] [DecidableEq β] : DecidableEq (SortedMap κ β) := fun first second =>
  decidable_of_iff (first.entries = second.entries) ⟨eq_of_entries, fun same => same ▸ rfl⟩

/-- The map without entries. -/
def empty : SortedMap κ β := ⟨[], .nil⟩

instance : EmptyCollection (SortedMap κ β) := ⟨empty⟩

instance : Inhabited (SortedMap κ β) := ⟨empty⟩

/-- The value under `key`, if there is one. -/
def get? (map : SortedMap κ β) (key : κ) : Option β := Entries.lookup key map.entries

/-- Is there a value under `key`? -/
def contains (map : SortedMap κ β) (key : κ) : Bool := (map.get? key).isSome

/-- The keys, in order. -/
def keys (map : SortedMap κ β) : List κ := map.entries.map (·.1)

/-- The values, in the order of their keys. -/
def values (map : SortedMap κ β) : List β := map.entries.map (·.2)

/-- The number of entries. -/
def size (map : SortedMap κ β) : Nat := map.entries.length

/-- Is the map without entries? -/
def isEmpty (map : SortedMap κ β) : Bool := map.entries.isEmpty

/-- The map with `value` under `key`, whatever was there. -/
def insert [Std.TransOrd κ] (map : SortedMap κ β) (key : κ) (value : β) : SortedMap κ β :=
  ⟨Entries.insert key value map.entries, Entries.increasing_insert key value map.increasing⟩

/-- The map with nothing under `key`. -/
def erase (map : SortedMap κ β) (key : κ) : SortedMap κ β :=
  ⟨Entries.erase key map.entries, Entries.increasing_erase key map.increasing⟩

/-- The map with all entries of `added`, which win over entries with the same key. -/
def insertAll [Std.TransOrd κ] (map added : SortedMap κ β) : SortedMap κ β :=
  ⟨Entries.insertAll added.entries map.entries,
    Entries.increasing_insertAll added.entries map.increasing⟩

/-- The map of a list of entries; of two with the same key the later one stays. -/
def ofList [Std.TransOrd κ] (entries : List (κ × β)) : SortedMap κ β :=
  ⟨Entries.insertAll entries [], Entries.increasing_insertAll entries .nil⟩

end SortedMap

end ScopedStore
