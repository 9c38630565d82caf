import ScopedStore.SortedMap

/-!
# What look-ups see

A sorted map is known by its look-ups: two maps in which every key has the same value are the
same map (`SortedMap.ext_get?`). So it is enough to say of every operation what it does to the
value under each key. Inserting and erasing change the value under one key
(`SortedMap.get?_insert`, `SortedMap.get?_erase`), and laying one map over another takes the
upper value where there is one (`SortedMap.get?_insertAll`).

The statements about bare entry lists need no order, except where a list is laid over another
one: there the last entry under a key wins, and only in an ordered list is it the first one too.
-/

set_option autoImplicit false

namespace ScopedStore

universe u v w

/-! ## Bare entry lists -/

namespace Entries

variable {κ : Type u} {β : Type v} [Ord κ]

@[simp] theorem lookup_nil (key : κ) : lookup key ([] : List (κ × β)) = none := rfl

theorem lookup_cons [Std.LawfulEqOrd κ] [DecidableEq κ] (key other : κ) (value : β)
    (entries : List (κ × β)) :
    lookup key ((other, value) :: entries) =
      if key = other then some value else lookup key entries := by
  rw [lookup]
  by_cases same : key = other
  · rw [if_pos same, Std.LawfulEqOrd.compare_eq_iff_eq.2 same]
  · rw [if_neg same]
    split
    · rename_i equal
      exact absurd (Std.LawfulEqOrd.eq_of_compare equal) same
    · rfl

theorem mem_of_lookup [Std.LawfulEqOrd κ] [DecidableEq κ] {key : κ} {value : β}
    {entries : List (κ × β)} (found : lookup key entries = some value) :
    (key, value) ∈ entries := by
  induction entries with
  | nil => cases found
  | cons head rest ih =>
      obtain ⟨other, held⟩ := head
      rw [lookup_cons] at found
      by_cases same : key = other
      · subst same
        rw [if_pos rfl] at found
        cases found
        exact List.mem_cons_self
      · rw [if_neg same] at found
        exact List.mem_cons_of_mem _ (ih found)

theorem lookup_eq_none [Std.LawfulEqOrd κ] [DecidableEq κ] {key : κ} {entries : List (κ × β)}
    (absent : ∀ entry ∈ entries, key ≠ entry.1) : lookup key entries = none := by
  cases found : lookup key entries with
  | none => rfl
  | some value => exact absurd rfl (absent _ (mem_of_lookup found))

/-- The entries behind the first one of an ordered list have other keys. -/
theorem lookup_rest_of_increasing [Std.TransOrd κ] [Std.LawfulEqOrd κ] [DecidableEq κ] {key : κ}
    {value : β} {entries : List (κ × β)} (increasing : Increasing ((key, value) :: entries)) :
    lookup key entries = none := by
  refine lookup_eq_none fun entry member same => ?_
  have above : compare key entry.1 = .lt := (List.pairwise_cons.1 increasing).1 entry member
  rw [← same, Std.ReflOrd.compare_self] at above
  cases above

theorem lookup_of_mem [Std.TransOrd κ] [Std.LawfulEqOrd κ] [DecidableEq κ] {key : κ} {value : β}
    {entries : List (κ × β)} (increasing : Increasing entries)
    (member : (key, value) ∈ entries) : lookup key entries = some value := by
  induction entries with
  | nil => cases member
  | cons head rest ih =>
      obtain ⟨other, held⟩ := head
      rw [lookup_cons]
      rcases List.mem_cons.1 member with same | inRest
      · cases same
        rw [if_pos rfl]
      · have found := ih (List.pairwise_cons.1 increasing).2 inRest
        by_cases same : key = other
        · subst same
          rw [lookup_rest_of_increasing increasing] at found
          cases found
        · rw [if_neg same, found]

/-- Inserting changes the value under one key. -/
theorem lookup_insert [Std.TransOrd κ] [Std.LawfulEqOrd κ] [DecidableEq κ] (key other : κ)
    (value : β) (entries : List (κ × β)) :
    lookup other (insert key value entries) =
      if other = key then some value else lookup other entries := by
  induction entries with
  | nil => rw [insert, lookup_cons]
  | cons head rest ih =>
      obtain ⟨held, old⟩ := head
      rw [insert]
      split
      · rw [lookup_cons]
      · rename_i equal
        have same : key = held := Std.LawfulEqOrd.eq_of_compare equal
        subst same
        rw [lookup_cons, lookup_cons]
        by_cases here : other = key
        · rw [if_pos here, if_pos here]
        · rw [if_neg here, if_neg here, if_neg here]
      · rename_i larger
        have different : key ≠ held := by
          intro same
          rw [same, Std.ReflOrd.compare_self] at larger
          cases larger
        rw [lookup_cons, ih, lookup_cons]
        by_cases here : other = held
        · rw [if_pos here, if_pos here, if_neg fun same => different (same.symm.trans here)]
        · rw [if_neg here, if_neg here]

/-- Erasing removes the value under one key. -/
theorem lookup_erase [Std.TransOrd κ] [Std.LawfulEqOrd κ] [DecidableEq κ] (key other : κ)
    (entries : List (κ × β)) :
    lookup other (erase key entries) = if other = key then none else lookup other entries := by
  induction entries with
  | nil => simp [erase]
  | cons head rest ih =>
      obtain ⟨held, old⟩ := head
      by_cases same : key = held
      · subst same
        have gone : erase key ((key, old) :: rest) = erase key rest := by simp [erase]
        rw [gone, ih, lookup_cons]
        by_cases here : other = key
        · rw [if_pos here, if_pos here]
        · rw [if_neg here, if_neg here, if_neg here]
      · have kept : erase key ((held, old) :: rest) = (held, old) :: erase key rest := by
          simp [erase, same]
        rw [kept, lookup_cons, ih, lookup_cons]
        by_cases here : other = held
        · rw [if_pos here, if_pos here, if_neg fun back => same (back.symm.trans here)]
        · rw [if_neg here, if_neg here]

/-- Choosing entries by their keys takes away the values under the other ones. -/
theorem lookup_filter [Std.LawfulEqOrd κ] [DecidableEq κ] (keeps : κ → Bool) (key : κ)
    (entries : List (κ × β)) :
    lookup key (entries.filter fun entry => keeps entry.1) =
      if keeps key then lookup key entries else none := by
  induction entries with
  | nil => simp
  | cons head rest ih =>
      obtain ⟨other, value⟩ := head
      by_cases same : key = other
      · subst same
        cases kept : keeps key with
        | true => simp [kept, lookup_cons]
        | false => simpa [List.filter_cons, kept] using ih
      · cases kept : keeps other with
        | true => simp [kept, lookup_cons, same, ih]
        | false => simp [kept, lookup_cons, same, ih]

/-- Inserting under a key that is not chosen makes no difference to the choice. -/
theorem filter_insert [Std.LawfulEqOrd κ] {keeps : κ → Bool} {key : κ}
    (left : keeps key = false) (value : β) (entries : List (κ × β)) :
    (insert key value entries).filter (fun entry => keeps entry.1) =
      entries.filter fun entry => keeps entry.1 := by
  induction entries with
  | nil => simp [insert, left]
  | cons head rest ih =>
      obtain ⟨other, held⟩ := head
      rw [insert]
      split
      · simp [List.filter_cons, left]
      · rename_i equal
        have same : key = other := Std.LawfulEqOrd.eq_of_compare equal
        simp [left, ← same]
      · simp only [List.filter_cons, ih]

theorem mem_insertAll {entry : κ × β} {added entries : List (κ × β)}
    (member : entry ∈ insertAll added entries) : entry ∈ added ∨ entry ∈ entries := by
  induction added generalizing entries with
  | nil => exact .inr member
  | cons first added ih =>
      rcases ih member with later | held
      · exact .inl (List.mem_cons_of_mem _ later)
      · rcases mem_insert held with rfl | before
        · exact .inl List.mem_cons_self
        · exact .inr before

/-- Laying an ordered list over another one takes its value where it has one. -/
theorem lookup_insertAll [Std.TransOrd κ] [Std.LawfulEqOrd κ] [DecidableEq κ] (key : κ)
    {added : List (κ × β)} (increasing : Increasing added) (entries : List (κ × β)) :
    lookup key (insertAll added entries) = (lookup key added).or (lookup key entries) := by
  induction added generalizing entries with
  | nil => rfl
  | cons head rest ih =>
      obtain ⟨other, value⟩ := head
      have step : insertAll ((other, value) :: rest) entries =
          insertAll rest (insert other value entries) := rfl
      rw [step, ih (List.pairwise_cons.1 increasing).2, lookup_insert, lookup_cons]
      by_cases same : key = other
      · subst same
        rw [lookup_rest_of_increasing increasing, if_pos rfl, if_pos rfl]
        rfl
      · rw [if_neg same, if_neg same]

/-- Ordered lists with the same look-ups begin with the same key. -/
theorem key_eq_of_lookup [Std.TransOrd κ] [Std.LawfulEqOrd κ] [DecidableEq κ] {key key' : κ}
    {value value' : β} {rest rest' : List (κ × β)} (ordered : Increasing ((key, value) :: rest))
    (ordered' : Increasing ((key', value') :: rest'))
    (same : ∀ other, lookup other ((key, value) :: rest) = lookup other ((key', value') :: rest')) :
    key = key' := by
  by_cases equal : key = key'
  · exact equal
  · -- Each key would stand behind the other one.
    have inFirst : lookup key' rest = some value' := by
      have found := same key'
      rwa [lookup_cons, lookup_cons, if_neg (Ne.symm equal), if_pos rfl] at found
    have inSecond : lookup key rest' = some value := by
      have found := same key
      rw [lookup_cons, lookup_cons, if_pos rfl, if_neg equal] at found
      exact found.symm
    have smaller : compare key key' = .lt :=
      (List.pairwise_cons.1 ordered).1 _ (mem_of_lookup inFirst)
    have larger : compare key' key = .lt :=
      (List.pairwise_cons.1 ordered').1 _ (mem_of_lookup inSecond)
    have looped := Std.TransCmp.lt_trans smaller larger
    rw [Std.ReflOrd.compare_self] at looped
    cases looped

/-- Ordered lists with the same look-ups are the same list. -/
theorem eq_of_lookup [Std.TransOrd κ] [Std.LawfulEqOrd κ] [DecidableEq κ]
    {first second : List (κ × β)} (ordered : Increasing first) (ordered' : Increasing second)
    (same : ∀ key, lookup key first = lookup key second) : first = second := by
  induction first generalizing second with
  | nil =>
      cases second with
      | nil => rfl
      | cons head rest =>
          have found := same head.1
          rw [lookup_cons, if_pos rfl] at found
          cases found
  | cons head rest ih =>
      obtain ⟨key, value⟩ := head
      cases second with
      | nil =>
          have found := same key
          rw [lookup_cons, if_pos rfl] at found
          cases found
      | cons head' rest' =>
          obtain ⟨key', value'⟩ := head'
          obtain rfl := key_eq_of_lookup ordered ordered' same
          have values : value = value' := by
            have found := same key
            rw [lookup_cons, lookup_cons, if_pos rfl, if_pos rfl] at found
            exact Option.some.inj found
          subst values
          have rests : rest = rest' := by
            refine ih (List.pairwise_cons.1 ordered).2 (List.pairwise_cons.1 ordered').2
              fun other => ?_
            by_cases here : other = key
            · subst here
              rw [lookup_rest_of_increasing ordered, lookup_rest_of_increasing ordered']
            · have found := same other
              rwa [lookup_cons, lookup_cons, if_neg here, if_neg here] at found
          rw [rests]

end Entries

/-! ## Maps -/

namespace SortedMap

variable {κ : Type u} {β : Type v} [Ord κ]

@[simp] theorem get?_empty (key : κ) : (∅ : SortedMap κ β).get? key = none := rfl

@[simp] theorem insertAll_empty [Std.TransOrd κ] (map : SortedMap κ β) :
    map.insertAll ∅ = map := rfl

theorem mem_of_mem_ofList [Std.TransOrd κ] {entry : κ × β} {entries : List (κ × β)}
    (member : entry ∈ (ofList entries).entries) : entry ∈ entries :=
  (Entries.mem_insertAll member).resolve_right List.not_mem_nil

/-- No key occurs twice. -/
theorem nodup_keys [Std.LawfulEqOrd κ] (map : SortedMap κ β) : map.keys.Nodup := by
  refine List.pairwise_map.2 (map.increasing.imp fun {earlier later} smaller same => ?_)
  rw [same, Std.ReflOrd.compare_self] at smaller
  cases smaller

variable [Std.TransOrd κ] [Std.LawfulEqOrd κ] [DecidableEq κ]

theorem get?_insert (map : SortedMap κ β) (key other : κ) (value : β) :
    (map.insert key value).get? other = if other = key then some value else map.get? other :=
  Entries.lookup_insert key other value map.entries

@[simp] theorem get?_insert_self (map : SortedMap κ β) (key : κ) (value : β) :
    (map.insert key value).get? key = some value := by
  rw [get?_insert, if_pos rfl]

theorem get?_erase (map : SortedMap κ β) (key other : κ) :
    (map.erase key).get? other = if other = key then none else map.get? other :=
  Entries.lookup_erase key other map.entries

theorem get?_insertAll (map added : SortedMap κ β) (key : κ) :
    (map.insertAll added).get? key = (added.get? key).or (map.get? key) :=
  Entries.lookup_insertAll key added.increasing map.entries

theorem get?_eq_some_iff (map : SortedMap κ β) (key : κ) (value : β) :
    map.get? key = some value ↔ (key, value) ∈ map.entries :=
  ⟨Entries.mem_of_lookup, Entries.lookup_of_mem map.increasing⟩

theorem mem_keys_iff (map : SortedMap κ β) (key : κ) :
    key ∈ map.keys ↔ (map.get? key).isSome := by
  rw [keys, List.mem_map, Option.isSome_iff_exists]
  constructor
  · rintro ⟨⟨_, value⟩, member, rfl⟩
    exact ⟨value, (map.get?_eq_some_iff _ _).2 member⟩
  · rintro ⟨value, found⟩
    exact ⟨(key, value), (map.get?_eq_some_iff _ _).1 found, rfl⟩

theorem mem_keys_insert (map : SortedMap κ β) (key other : κ) (value : β) :
    other ∈ (map.insert key value).keys ↔ other = key ∨ other ∈ map.keys := by
  rw [mem_keys_iff, mem_keys_iff, get?_insert]
  by_cases here : other = key
  · simp [here]
  · simp [here]

theorem isEmpty_iff (map : SortedMap κ β) : map.isEmpty = true ↔ ∀ key, map.get? key = none := by
  rw [isEmpty, List.isEmpty_iff]
  constructor
  · intro none key
    rw [get?, none, Entries.lookup_nil]
  · intro absent
    refine List.eq_nil_iff_forall_not_mem.2 fun entry member => ?_
    have found := (map.get?_eq_some_iff entry.1 entry.2).2 member
    rw [absent] at found
    cases found

/-- **A map is known by its look-ups.** -/
theorem ext_get? {first second : SortedMap κ β}
    (same : ∀ key, first.get? key = second.get? key) : first = second :=
  eq_of_entries (Entries.eq_of_lookup first.increasing second.increasing same)

@[simp] theorem empty_insertAll (map : SortedMap κ β) : (∅ : SortedMap κ β).insertAll map = map :=
  ext_get? fun key => by rw [get?_insertAll, get?_empty, Option.or_none]

end SortedMap

end ScopedStore
