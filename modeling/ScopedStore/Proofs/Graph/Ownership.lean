import ScopedStore.Proofs.Graph.Objects

/-!
# Who lists whom

A workspace lists its tabs and a tab lists its blocks. Every listed object exists, and every tab
and every block is listed exactly once by exactly one object (`Objects.Owned`). Neither clause
stands alone: a new id is listed nowhere yet only because what is listed exists, and an object can
be deleted behind the back of all others only because nobody else lists it.

Three changes keep this up: an object is written that lists what it listed before
(`Objects.Owned.put`), a new object is listed by one other (`Objects.Owned.adopt`), and an object is
taken out of the list that it is in and deleted (`Objects.Owned.disown`).
-/

set_option autoImplicit false

namespace ScopedStore

/-- What an object lists. -/
def Record.children : Record → List Ref
  | ⟨.workspace, body⟩ => (Workspace.tabIds body).map (Ref.mk .tab)
  | ⟨.tab, body⟩ => (Tab.blockIds body).map (Ref.mk .block)
  | _ => []

/-- The objects of this kind are listed by others. -/
def Kind.Listed (kind : Kind) : Prop := kind = .tab ∨ kind = .block

instance (kind : Kind) : Decidable kind.Listed :=
  inferInstanceAs (Decidable (kind = .tab ∨ kind = .block))

namespace Objects

variable {objects : Objects} {record owner child : Record} {ref gone : Ref}

/-- What is listed at an address. -/
def children (objects : Objects) (ref : Ref) : List Ref := (objects ref).elim [] Record.children

theorem children_of_some (found : objects ref = some record) :
    objects.children ref = record.children := by
  simp [children, found]

theorem children_of_none (absent : objects ref = none) : objects.children ref = [] := by
  simp [children, absent]

theorem isSome_of_mem_children (member : ref ∈ objects.children gone) : (objects gone).isSome := by
  cases found : objects gone with
  | none => simp [children_of_none found] at member
  | some record => rfl

theorem children_put (ref : Ref) : (objects.put record).children ref =
    if ref = record.ref then record.children else objects.children ref := by
  rw [children, put]
  split <;> rfl

theorem children_erase (ref : Ref) : (objects.erase gone).children ref =
    if ref = gone then [] else objects.children ref := by
  rw [children, erase]
  split <;> rfl

/-- Every listed object exists, and every tab and block is listed once, by one object. -/
structure Owned (objects : Objects) : Prop where
  present : ∀ {owner ref}, ref ∈ objects.children owner → (objects ref).isSome
  once : ∀ {ref}, ref.kind.Listed → (objects ref).isSome →
    ∃ owner, (objects.children owner).count ref = 1 ∧
      ∀ other, ref ∈ objects.children other → other = owner

theorem owned_empty : Owned fun _ => none where
  present member := nomatch member
  once _ present := nomatch present

namespace Owned

/-- Nobody lists what does not exist. -/
theorem not_mem_of_absent (owned : objects.Owned) (absent : objects ref = none) (owner : Ref) :
    ref ∉ objects.children owner := by
  intro member
  have present := owned.present member
  rw [absent] at present
  cases present

/-- **An object is written that lists what it listed before.** A tab or a block has to be there. -/
theorem put (owned : objects.Owned) (same : record.children = objects.children record.ref)
    (root : record.ref.kind.Listed → (objects record.ref).isSome) : (objects.put record).Owned := by
  have children (ref : Ref) : (objects.put record).children ref = objects.children ref := by
    rw [children_put]
    split
    · rename_i here
      rw [here, same]
    · rfl
  constructor
  · intro owner ref member
    rw [children] at member
    exact isSome_put (owned.present member)
  · intro ref listed present
    simp only [children]
    refine owned.once listed ?_
    by_cases here : ref = record.ref
    · subst here
      exact root listed
    · rwa [put_of_ne here] at present

/-- **A new object is listed by one other**, behind all that this one listed before. -/
theorem adopt (owned : objects.Owned) (free : objects child.ref = none)
    (barren : child.children = [])
    (lists : owner.children = objects.children owner.ref ++ [child.ref])
    (root : owner.ref.kind.Listed → (objects owner.ref).isSome) :
    ((objects.put child).put owner).Owned := by
  have nobody := owned.not_mem_of_absent free
  have children (ref : Ref) : ((objects.put child).put owner).children ref =
      objects.children ref ++ if ref = owner.ref then [child.ref] else [] := by
    rw [children_put, children_put]
    by_cases here : ref = owner.ref
    · rw [if_pos here, if_pos here, here, lists]
    · rw [if_neg here, if_neg here, List.append_nil]
      split
      · rename_i new
        rw [new, barren, children_of_none free]
      · rfl
  have childPresent : ((objects.put child).put owner child.ref).isSome :=
    isSome_put (by simp)
  constructor
  · intro holder ref member
    rw [children, List.mem_append] at member
    rcases member with before | new
    · exact isSome_put (isSome_put (owned.present before))
    · split at new
      · exact List.mem_singleton.1 new ▸ childPresent
      · cases new
  · intro ref listed present
    simp only [children]
    by_cases new : ref = child.ref
    · subst new
      refine ⟨owner.ref, ?_, fun holder member => ?_⟩
      · simp [List.count_eq_zero.2 (nobody owner.ref)]
      · rcases List.mem_append.1 member with before | new
        · exact absurd before (nobody holder)
        · split at new
          · assumption
          · cases new
    · have before : (objects ref).isSome := by
        by_cases here : ref = owner.ref
        · subst here
          exact root listed
        · rwa [put_of_ne here, put_of_ne new] at present
      obtain ⟨holder, once, only⟩ := owned.once listed before
      have notNew (place : Ref) : ref ∉ if place = owner.ref then [child.ref] else [] := by
        split <;> simp [new]
      refine ⟨holder, ?_, fun place member => ?_⟩
      · rw [List.count_append, once, List.count_eq_zero.2 (notNew holder)]
      · exact only place ((List.mem_append.1 member).resolve_right (notNew place))

/-- **An object is taken out of the list that it is in, and deleted.** It must list nothing. -/
theorem disown (owned : objects.Owned) (listedKind : gone.kind.Listed)
    (listed : gone ∈ objects.children owner.ref) (barren : objects.children gone = [])
    (rest : owner.children = (objects.children owner.ref).filter (· ≠ gone)) :
    ((objects.put owner).erase gone).Owned := by
  obtain ⟨holder, _, only⟩ := owned.once listedKind (owned.present listed)
  obtain rfl := only owner.ref listed
  -- Nobody else lists what is gone, so it is out of every list.
  have children (ref : Ref) : ((objects.put owner).erase gone).children ref =
      (objects.children ref).filter (· ≠ gone) := by
    rw [children_erase, children_put]
    by_cases deleted : ref = gone
    · rw [if_pos deleted, deleted, barren]
      rfl
    · rw [if_neg deleted]
      by_cases here : ref = owner.ref
      · rw [if_pos here, here, rest]
      · rw [if_neg here]
        refine (List.filter_eq_self.2 fun child member => ?_).symm
        exact decide_eq_true fun same => here (only ref (same ▸ member))
  constructor
  · intro place ref member
    rw [children, List.mem_filter] at member
    have stays : ref ≠ gone := of_decide_eq_true member.2
    rw [erase_of_ne stays]
    exact isSome_put (owned.present member.1)
  · intro ref listedRef present
    have stays : ref ≠ gone := by
      rintro rfl
      rw [erase_self] at present
      cases present
    rw [erase_of_ne stays] at present
    have before : (objects ref).isSome := by
      by_cases here : ref = owner.ref
      · exact here ▸ isSome_of_mem_children listed
      · rwa [put_of_ne here] at present
    obtain ⟨place, once, alone⟩ := owned.once listedRef before
    simp only [children]
    refine ⟨place, ?_, fun other member => alone other (List.mem_filter.1 member).1⟩
    rw [List.count_filter (by simpa using stays), once]

end Owned

end Objects

/-- A block lists nothing. -/
theorem Database.Holds.children_block {database : Database} {objects : Objects}
    (holds : database.Holds objects) (id : String) : objects.children ⟨.block, id⟩ = [] := by
  cases found : objects ⟨.block, id⟩ with
  | none => exact Objects.children_of_none found
  | some record =>
      obtain ⟨body, same, _⟩ := holds.exists_body (Option.isSome_of_mem found)
      exact Objects.children_of_some same

end ScopedStore
