import Mathlib.Data.List.Forall2
import ScopedStore.Proofs.Scopes

/-!
# The changes that survive

Whatever is done to a stack of pending changes, it tells no more and no less than a journal in
which scopes can be undone. A change survives if none of the scopes around it is rolled back later
(`ChangeStack.survivors`); a scope that is still open, or was committed, survives with the one
around it. Looking an object up finds the last change of it that survives, and so does the
snapshot (`ChangeStack.snapshot_holds`).

Between the two stand the pages: the changes of each frame in the order in which they were
recorded. A frame holds of each object the last change on its page, which every step keeps
(`ChangeStack.hold_perform`); and the pages behind some steps, laid one behind the other, are what
stays of the pages in front of them and then what survives of the steps
(`ChangeStack.flatten_turnAll`).

The stack of a running transaction is one to which such steps were done
(`Handle.Lockstep.changes_play`), so all of this holds of it.
-/

set_option autoImplicit false

namespace ScopedStore

/-! ## What is done to a stack -/

namespace ChangeStack

/-- One thing that is done to a stack. -/
inductive Step
  | openScope
  | record (change : Change)
  | commitScope
  | rollBackScope
  deriving DecidableEq

/-- Does the step close a scope, if there is one? -/
def Step.closes : Step → Bool
  | commitScope | rollBackScope => true
  | openScope | record _ => false

/-- The answer of a step that closes a scope, and the stack after it, which is the stack before it
where there is no scope to close. -/
def settle (stack : ChangeStack) :
    Except ScopeError ChangeStack → Except ScopeError Unit × ChangeStack
  | .ok closed => (.ok (), closed)
  | .error misuse => (.error misuse, stack)

/-- What a step answers, and the stack after it. -/
def perform (stack : ChangeStack) : Step → Except ScopeError Unit × ChangeStack
  | .openScope => (.ok (), stack.openScope)
  | .record change => (.ok (), stack.record change)
  | .commitScope => stack.settle stack.commitScope
  | .rollBackScope => stack.settle stack.rollBackScope

/-- The stack after some steps. -/
def play (stack : ChangeStack) (steps : List Step) : ChangeStack :=
  steps.foldl (fun stack step => (stack.perform step).2) stack

/-- Some steps with their answers. -/
def transcript (stack : ChangeStack) : List Step → List (Step × Except ScopeError Unit)
  | [] => []
  | first :: rest =>
      (first, (stack.perform first).1) :: (stack.perform first).2.transcript rest

/-- A scope was closed. -/
def closed : Step × Except ScopeError Unit → Bool
  | (step, .ok ()) => step.closes
  | (_, .error _) => false

/-! ## What survives -/

/-- The step that closes a scope, among the steps behind a point. The scopes that are open at the
point are numbered from the innermost one on, which has the number 0. -/
def closing : Nat → List Step → Option Step
  | _, [] => none
  | scope, .openScope :: rest => closing (scope + 1) rest
  | scope, .record _ :: rest => closing scope rest
  | 0, .commitScope :: _ => some .commitScope
  | 0, .rollBackScope :: _ => some .rollBackScope
  | scope + 1, .commitScope :: rest | scope + 1, .rollBackScope :: rest => closing scope rest

/-- Of so many open scopes none is rolled back, from one of them on outwards. -/
def Stays (opened scope : Nat) (rest : List Step) : Prop :=
  ∀ outer < opened, scope ≤ outer → closing outer rest ≠ some .rollBackScope

instance (opened scope : Nat) (rest : List Step) : Decidable (Stays opened scope rest) :=
  inferInstanceAs (Decidable (∀ outer < opened, _))

/-- The changes that some steps record and that survive, in the order of the steps, when so many
scopes are open in front of them: those for which no scope around them is rolled back. -/
def survivorsAt : Nat → List Step → List Change
  | _, [] => []
  | opened, .openScope :: rest => survivorsAt (opened + 1) rest
  | opened, .record change :: rest =>
      if Stays opened 0 rest then change :: survivorsAt opened rest else survivorsAt opened rest
  | opened, .commitScope :: rest | opened, .rollBackScope :: rest => survivorsAt (opened - 1) rest

/-- The changes that survive what is done to an empty stack. -/
def survivors (steps : List Step) : List Change := survivorsAt 0 steps

/-- The last of some changes that is one of an object. -/
def lastOf (ref : Ref) (changes : List Change) : Option Change :=
  (changes.filter fun change => change.ref = ref).getLast?

section Stays

variable {opened scope : Nat} {rest : List Step}

theorem stays_openScope :
    Stays (opened + 1) (scope + 1) rest ↔ Stays opened scope (.openScope :: rest) := by
  constructor
  · intro stays outer inside above
    exact stays (outer + 1) (by omega) (by omega)
  · intro stays outer inside above
    obtain ⟨outer, rfl⟩ : ∃ lower, outer = lower + 1 := ⟨outer - 1, by omega⟩
    exact stays outer (by omega) (by omega)

/-- Closing a scope says nothing of those around it. -/
theorem stays_closed {step : Step} (closes : step.closes = true) :
    Stays (opened + 1) (scope + 1) (step :: rest) ↔ Stays opened scope rest := by
  have behind (outer : Nat) : closing (outer + 1) (step :: rest) = closing outer rest := by
    cases step with
    | openScope | record change => cases closes
    | commitScope | rollBackScope => rfl
  constructor
  · intro stays outer inside above
    rw [← behind]
    exact stays (outer + 1) (by omega) (by omega)
  · intro stays outer inside above
    obtain ⟨outer, rfl⟩ : ∃ lower, outer = lower + 1 := ⟨outer - 1, by omega⟩
    rw [behind]
    exact stays outer (by omega) (by omega)

/-- A scope that is committed stays if the one around it does. -/
theorem stays_commitScope :
    Stays (opened + 1) 0 (.commitScope :: rest) ↔ Stays opened 0 rest := by
  constructor
  · intro stays outer inside _
    exact stays (outer + 1) (Nat.succ_lt_succ inside) (Nat.zero_le _)
  · intro stays outer inside _
    cases outer with
    | zero => exact nofun
    | succ outer => exact stays outer (Nat.lt_of_succ_lt_succ inside) (Nat.zero_le outer)

theorem not_stays_rollBackScope : ¬Stays (opened + 1) 0 (.rollBackScope :: rest) :=
  fun stays => stays 0 (Nat.succ_pos opened) (Nat.le_refl 0) rfl

/-- Where no scope is open everything stays. -/
theorem stays_outside (steps : List Step) : Stays 0 scope steps :=
  fun _ inside => absurd inside (Nat.not_lt_zero _)

theorem stays_nil : Stays opened scope [] := fun _ _ _ => nofun

end Stays

/-! ## Pages -/

/-- The pages after a step, innermost page first, and on each the earliest change first. -/
def turn : List (List Change) → Step → List (List Change)
  | pages, .openScope => [] :: pages
  | page :: outer, .record change => (page ++ [change]) :: outer
  | page :: outer :: pages, .commitScope => (outer ++ page) :: pages
  | _ :: outer :: pages, .rollBackScope => outer :: pages
  | pages, _ => pages

/-- What stays of some pages, in the order in which it was recorded, when the first of them is that
of the scope with a number. -/
def staying (opened : Nat) (rest : List Step) : Nat → List (List Change) → List Change
  | _, [] => []
  | scope, page :: outer =>
      staying opened rest (scope + 1) outer ++ if Stays opened scope rest then page else []

theorem staying_nil (opened scope : Nat) (pages : List (List Change)) :
    staying opened [] scope pages = pages.reverse.flatten := by
  induction pages generalizing scope with
  | nil => rfl
  | cons page outer ih => simp [staying, ih, stays_nil]

/-- What stays of some pages depends on nothing but which scopes stay. -/
theorem staying_congr {opened opened' shift : Nat} {rest rest' : List Step}
    (same : ∀ scope, Stays opened' (scope + shift) rest' ↔ Stays opened scope rest) (scope : Nat)
    (pages : List (List Change)) :
    staying opened' rest' (scope + shift) pages = staying opened rest scope pages := by
  induction pages generalizing scope with
  | nil => rfl
  | cons page outer ih =>
      have next : scope + shift + 1 = scope + 1 + shift := by omega
      simp only [staying, next, ih, same]

theorem staying_openScope (opened scope : Nat) (rest : List Step) (pages : List (List Change)) :
    staying opened (.openScope :: rest) scope pages =
      staying (opened + 1) rest (scope + 1) pages :=
  (staying_congr (fun _ => stays_openScope) scope pages).symm

theorem staying_record (opened scope : Nat) (change : Change) (rest : List Step)
    (pages : List (List Change)) :
    staying opened (.record change :: rest) scope pages = staying opened rest scope pages := by
  induction pages generalizing scope with
  | nil => rfl
  | cons page outer ih =>
      rw [staying, staying, ih]
      rfl

theorem staying_closed {step : Step} (closes : step.closes = true) (opened scope : Nat)
    (rest : List Step) (pages : List (List Change)) :
    staying (opened + 1) (step :: rest) (scope + 1) pages = staying opened rest scope pages :=
  staying_congr (fun _ => stays_closed closes) scope pages

/-- **Of the pages behind some steps, what stays of those in front of them comes first, and what
survives of the steps after that.** -/
theorem flatten_turnAll (steps : List Step) {opened : Nat} {pages : List (List Change)}
    (length : pages.length = opened + 1) :
    (steps.foldl turn pages).reverse.flatten =
      staying opened steps 0 pages ++ survivorsAt opened steps := by
  induction steps generalizing opened pages with
  | nil => simp [staying_nil, survivorsAt]
  | cons step rest ih =>
      obtain ⟨page, outer, rfl⟩ := List.exists_cons_of_length_eq_add_one length
      rw [List.foldl_cons]
      cases step with
      | openScope =>
          have longer : ([] :: page :: outer).length = opened + 1 + 1 := congrArg (· + 1) length
          rw [turn, ih longer, staying, staying_openScope, survivorsAt]
          simp
      | record change =>
          have same : ((page ++ [change]) :: outer).length = opened + 1 := length
          rw [turn, ih same, staying_record, staying, staying, survivorsAt]
          by_cases stays : Stays opened 0 rest
          · simp [stays]
          · simp [stays]
      | commitScope =>
          cases opened with
          | zero =>
              -- There is no scope to close, so the only page is left as it is.
              obtain rfl : outer = [] := by simpa using length
              have later := ih length
              simpa [turn, staying, survivorsAt, stays_outside] using later
          | succ opened =>
              obtain ⟨parent, pages, rfl⟩ :=
                List.exists_cons_of_length_eq_add_one (Nat.succ.inj length)
              have shorter : ((parent ++ page) :: pages).length = opened + 1 := Nat.succ.inj length
              have around : Stays (opened + 1) (0 + 1) (.commitScope :: rest) ↔ Stays opened 0 rest :=
                stays_closed rfl
              rw [turn, ih shorter, survivorsAt, staying, staying, staying, staying_closed rfl]
              simp only [stays_commitScope, around]
              by_cases stays : Stays opened 0 rest
              · simp [stays]
              · simp [stays]
      | rollBackScope =>
          cases opened with
          | zero =>
              obtain rfl : outer = [] := by simpa using length
              have later := ih length
              simpa [turn, staying, survivorsAt, stays_outside] using later
          | succ opened =>
              obtain ⟨parent, pages, rfl⟩ :=
                List.exists_cons_of_length_eq_add_one (Nat.succ.inj length)
              have shorter : (parent :: pages).length = opened + 1 := Nat.succ.inj length
              have below : staying (opened + 1) (.rollBackScope :: rest) (0 + 1) (parent :: pages) =
                  staying opened rest 0 (parent :: pages) := staying_closed rfl _ _ _ _
              rw [turn, ih shorter, survivorsAt, ← below]
              simp [staying, not_stays_rollBackScope]

end ChangeStack

/-! ## Frames and pages -/

section LastOf

open ChangeStack

variable {ref : Ref} {changes : List Change}

theorem lastOf_append (ref : Ref) (first second : List Change) :
    lastOf ref (first ++ second) = (lastOf ref second).or (lastOf ref first) := by
  simp [lastOf]

theorem lastOf_singleton (ref : Ref) (change : Change) :
    lastOf ref [change] = if ref = change.ref then some change else none := by
  by_cases same : change.ref = ref
  · simp [lastOf, same]
  · simp [lastOf, same, Ne.symm same]

theorem mem_of_lastOf {change : Change} (last : lastOf ref changes = some change) :
    change ∈ changes ∧ change.ref = ref := by
  have member := List.mem_of_getLast? last
  simpa using member

theorem lastOf_eq_none : lastOf ref changes = none ↔ ∀ change ∈ changes, change.ref ≠ ref := by
  simp [lastOf]

end LastOf

/-- A frame holds of each object the last change of it on a page. -/
def Frame.Holds (frame : Frame) (page : List Change) : Prop :=
  ∀ ref, frame.get? ref = ChangeStack.lastOf ref page

namespace Frame.Holds

variable {frame inner : Frame} {page later : List Change}

theorem empty : Frame.Holds ∅ [] := fun _ => rfl

theorem record (holds : frame.Holds page) (change : Change) :
    Frame.Holds (frame.insert change.ref change) (page ++ [change]) := by
  intro ref
  rw [SortedMap.get?_insert, lastOf_append, lastOf_singleton, holds]
  by_cases same : ref = change.ref
  · simp [same]
  · simp [same]

theorem followedBy (holds : frame.Holds page) (holdsLater : inner.Holds later) :
    Frame.Holds (frame.insertAll inner) (page ++ later) := by
  intro ref
  rw [SortedMap.get?_insertAll, lastOf_append, holds, holdsLater]

/-- A frame files every change under its own object. -/
theorem ref_eq (holds : frame.Holds page) {ref : Ref} {change : Change}
    (found : frame.get? ref = some change) : change.ref = ref :=
  (mem_of_lastOf ((holds ref).symm.trans found)).2

theorem isEmpty_iff (holds : frame.Holds page) : frame.isEmpty = true ↔ page = [] := by
  rw [SortedMap.isEmpty_iff]
  constructor
  · intro absent
    refine List.eq_nil_iff_forall_not_mem.2 fun change member => ?_
    have none := (holds change.ref).symm.trans (absent change.ref)
    exact lastOf_eq_none.1 none change member rfl
  · rintro rfl ref
    exact holds ref

/-- The changes of a frame, in order: one of each object of which there is one on the page, the
last. -/
theorem mem_values (holds : frame.Holds page) (change : Change) :
    change ∈ frame.values ↔ ChangeStack.lastOf change.ref page = some change := by
  rw [← holds, SortedMap.get?_eq_some_iff, SortedMap.values, List.mem_map]
  constructor
  · rintro ⟨⟨ref, _⟩, member, rfl⟩
    have found := (frame.get?_eq_some_iff ref _).2 member
    rwa [holds.ref_eq found]
  · intro member
    exact ⟨_, member, rfl⟩

theorem values_increasing (holds : frame.Holds page) :
    frame.values.Pairwise fun earlier later => compare earlier.ref later.ref = .lt := by
  rw [SortedMap.values, List.pairwise_map]
  refine frame.increasing.imp_of_mem fun {earlier later} before behind smaller => ?_
  have first := holds.ref_eq ((frame.get?_eq_some_iff _ _).2 before)
  have second := holds.ref_eq ((frame.get?_eq_some_iff _ _).2 behind)
  rwa [first, second]

end Frame.Holds

namespace Frames

/-- Each frame holds the last changes of its page. -/
abbrev Hold (frames : List Frame) (pages : List (List Change)) : Prop :=
  List.Forall₂ Frame.Holds frames pages

variable {frames : List Frame} {pages : List (List Change)}

/-- The innermost change of an object is the last one on all pages. -/
theorem Hold.findSome? (hold : Hold frames pages) (ref : Ref) :
    (frames.findSome? fun frame => frame.get? ref) =
      ChangeStack.lastOf ref pages.reverse.flatten := by
  induction hold with
  | nil => rfl
  | @cons frame page frames pages holds _ ih =>
      have last : ChangeStack.lastOf ref (page :: pages).reverse.flatten =
          (ChangeStack.lastOf ref page).or (ChangeStack.lastOf ref pages.reverse.flatten) := by
        simp [lastOf_append]
      rw [List.findSome?_cons, last, ← ih, ← holds]
      cases frame.get? ref <;> rfl

/-- All frames laid over each other hold the last changes of all pages. -/
theorem Hold.overlay (hold : Hold frames pages) :
    Frame.Holds (overlay frames) pages.reverse.flatten := by
  induction hold with
  | nil => exact .empty
  | @cons frame page frames pages holds _ ih => simpa [Frames.overlay] using ih.followedBy holds

theorem Hold.all_isEmpty (hold : Hold frames pages) :
    frames.all SortedMap.isEmpty = true ↔ pages.reverse.flatten = [] := by
  induction hold with
  | nil => simp
  | cons holds _ ih => simp [holds.isEmpty_iff, and_comm, ← ih]

end Frames

namespace ChangeStack

/-- What a step does to the frames of a stack. -/
theorem frames_perform (stack : ChangeStack) (step : Step) :
    (stack.perform step).2.frames =
      match step with
      | .openScope => Frames.opened stack.frames
      | .record change => Frames.record change stack.frames
      | .commitScope => Frames.kept stack.frames
      | .rollBackScope => Frames.dropped stack.frames := by
  cases step with
  | openScope => exact stack.frames_openScope
  | record change => exact stack.frames_record change
  | commitScope =>
      by_cases opened : 0 < stack.scopes.length
      · rw [perform, commitScope_of_open opened]
        exact stack.frames_kept
      · obtain ⟨base, scopes⟩ := stack
        obtain rfl : scopes = [] := by simpa using opened
        rfl
  | rollBackScope =>
      by_cases opened : 0 < stack.scopes.length
      · rw [perform, rollBackScope_of_open opened]
        exact stack.frames_dropped
      · obtain ⟨base, scopes⟩ := stack
        obtain rfl : scopes = [] := by simpa using opened
        rfl

/-- **Every step turns the pages as it changes the frames.** -/
theorem hold_perform {stack : ChangeStack} {pages : List (List Change)}
    (hold : Frames.Hold stack.frames pages) (step : Step) :
    Frames.Hold (stack.perform step).2.frames (turn pages step) := by
  have some : stack.frames ≠ [] := List.concat_ne_nil _ _
  rw [frames_perform]
  revert some hold
  generalize stack.frames = frames
  intro hold some
  cases hold with
  | nil => exact absurd rfl some
  | cons holds below =>
      cases step with
      | openScope => exact .cons .empty (.cons holds below)
      | record change => exact .cons (holds.record change) below
      | commitScope =>
          cases below with
          | nil => exact .cons holds .nil
          | cons holdsOuter rest => exact .cons (holdsOuter.followedBy holds) rest
      | rollBackScope =>
          cases below with
          | nil => exact .cons holds .nil
          | cons holdsOuter rest => exact .cons holdsOuter rest

theorem hold_play {stack : ChangeStack} {pages : List (List Change)}
    (hold : Frames.Hold stack.frames pages) (steps : List Step) :
    Frames.Hold (stack.play steps).frames (steps.foldl turn pages) := by
  induction steps generalizing stack pages with
  | nil => exact hold
  | cons step rest ih => exact ih (hold_perform hold step)

/-- **A stack to which some steps were done holds on its pages what survives of them.** -/
theorem exists_pages (steps : List Step) :
    ∃ pages, Frames.Hold (empty.play steps).frames pages ∧
      pages.reverse.flatten = survivors steps := by
  refine ⟨steps.foldl turn [[]], hold_play (.cons .empty .nil) steps, ?_⟩
  rw [flatten_turnAll steps rfl]
  simp [staying, survivors]

theorem snapshot_holds (steps : List Step) :
    Frame.Holds (empty.play steps).snapshot (survivors steps) := by
  obtain ⟨pages, hold, survive⟩ := exists_pages steps
  rw [snapshot_eq_overlay, ← survive]
  exact hold.overlay

/-! ## The number of scopes -/

/-- A step that closes a scope succeeds exactly where there is one to close. -/
theorem answer_of_closes {step : Step} (closes : step.closes = true) (stack : ChangeStack) :
    (1 < stack.height → (stack.perform step).1 = .ok ()) ∧
      (stack.height = 1 → stack.perform step =
        (.error (if step = .commitScope then .nothingToCommit else .nothingToRollBack), stack)) := by
  obtain ⟨base, scopes⟩ := stack
  have height : height ⟨base, scopes⟩ = scopes.length + 1 := rfl
  rw [height]
  cases step with
  | openScope | record change => cases closes
  | commitScope =>
      match scopes with
      | [] => exact ⟨by simp, fun _ => rfl⟩
      | [_] | _ :: _ :: _ => exact ⟨fun _ => rfl, by simp⟩
  | rollBackScope =>
      match scopes with
      | [] => exact ⟨by simp, fun _ => rfl⟩
      | _ :: _ => exact ⟨fun _ => rfl, by simp⟩

/-- The height rises with a scope that is opened and falls with one that is closed. -/
theorem height_perform (stack : ChangeStack) (step : Step) :
    (stack.perform step).2.height + (if closed (step, (stack.perform step).1) then 1 else 0) =
      stack.height + (if step == .openScope then 1 else 0) := by
  obtain ⟨base, scopes⟩ := stack
  cases step with
  | openScope => rfl
  | record change => cases scopes <;> rfl
  | commitScope =>
      match scopes with
      | [] | [_] | _ :: _ :: _ => rfl
  | rollBackScope => cases scopes <;> rfl

/-- **The height is the one before, with one more for each scope that was opened and one less for
each that was closed.** -/
theorem height_play (stack : ChangeStack) (steps : List Step) :
    (stack.play steps).height + (stack.transcript steps).countP closed =
      stack.height + steps.count .openScope := by
  induction steps generalizing stack with
  | nil => rfl
  | cons step rest ih =>
      have here := stack.height_perform step
      have later := ih (stack.perform step).2
      have played : stack.play (step :: rest) = (stack.perform step).2.play rest := rfl
      rw [played, transcript, List.countP_cons, List.count_cons]
      omega

/-- **A stack tells what survives.** Whatever is done to an empty stack, what it gives for an
object, by itself and in the snapshot, is the last change of the object that survives. What it
gives in the end are the values of the snapshot, in strictly increasing order, and these are the
last surviving changes of their objects. Nothing is recorded exactly if nothing survives. The
height counts the scopes that were opened and not closed, and the base frame; where there is
nothing but the base frame, closing a scope fails and changes nothing. -/
theorem stack_tells_what_survives (steps : List Step) :
    let stack := empty.play steps
    let surviving := survivors steps
    (∀ ref, stack.lookup ref = lastOf ref surviving ∧
      stack.snapshot.get? ref = lastOf ref surviving) ∧
    (stack.drain = stack.snapshot.values ∧
      stack.drain.Pairwise (fun earlier later => compare earlier.ref later.ref = .lt) ∧
      ∀ change, change ∈ stack.drain ↔ lastOf change.ref surviving = some change) ∧
    (stack.isEmpty = true ↔ surviving = []) ∧
    (stack.height + (empty.transcript steps).countP closed = 1 + steps.count .openScope ∧
      1 ≤ stack.height) ∧
    (stack.height = 1 →
      stack.perform .commitScope = (.error .nothingToCommit, stack) ∧
        stack.perform .rollBackScope = (.error .nothingToRollBack, stack)) ∧
    (1 < stack.height →
      (stack.perform .commitScope).1 = .ok () ∧ (stack.perform .rollBackScope).1 = .ok ()) := by
  intro stack surviving
  obtain ⟨pages, hold, survive⟩ := exists_pages steps
  have snapshot : stack.snapshot.Holds surviving := snapshot_holds steps
  have commits := answer_of_closes (rfl : Step.closes .commitScope = true) stack
  have rollsBack := answer_of_closes (rfl : Step.closes .rollBackScope = true) stack
  refine ⟨fun ref => ⟨?_, snapshot ref⟩, ⟨stack.drain_eq, ?_, ?_⟩, ?_, ⟨?_, ?_⟩, ?_, ?_⟩
  · have found := hold.findSome? ref
    rwa [survive] at found
  · rw [stack.drain_eq]
    exact snapshot.values_increasing
  · rw [stack.drain_eq]
    exact snapshot.mem_values
  · have nothing := hold.all_isEmpty
    rwa [survive] at nothing
  · exact height_play empty steps
  · exact Nat.succ_pos _
  · exact fun alone => ⟨commits.2 alone, rollsBack.2 alone⟩
  · exact fun opened => ⟨commits.1 opened, rollsBack.1 opened⟩

/-- A scope that is committed into one that is rolled back leaves nothing, and neither does closing
a scope before there is one; what is recorded later stays. -/
theorem stack_tells_later_change :
    let change (id : String) : Change := .deleted ⟨.tab, id⟩
    let steps : List Step :=
      [.rollBackScope, .openScope, .record (change "t"), .openScope, .record (change "u"),
        .commitScope, .rollBackScope, .record (change "v")]
    let stack := empty.play steps
    survivors steps = [change "v"] ∧ stack.lookup ⟨.tab, "u"⟩ = none ∧ stack.height = 1 ∧
      stack.perform .commitScope = (.error .nothingToCommit, stack) := by
  intro change steps stack
  have survive : survivors steps = [change "v"] := by decide
  have alone : stack.height = 1 := by decide
  have tells := stack_tells_what_survives steps
  refine ⟨survive, ?_, alone, (tells.2.2.2.2.1 alone).1⟩
  have found := (tells.1 ⟨.tab, "u"⟩).1
  rw [survive] at found
  exact found

end ChangeStack

/-! ## The stack of a transaction -/

namespace Handle

variable {before after : Handle}

/-- What is done to a handle is done to its stack in steps. -/
theorem Does.changes_eq {deed : Deed} (does : Does deed before after)
    (lockstep : before.Lockstep) :
    ∃ steps : List ChangeStack.Step,
      after.changes = before.changes.map fun stack => stack.play steps := by
  have closing {change : ChangeStack → ChangeStack} {step : ChangeStack.Step}
      (same : ∀ stack, stack.scopes.length = before.depth →
        (stack.perform step).2 = change stack) :
      before.changes.map change = before.changes.map fun stack => stack.play [step] := by
    refine Option.map_congr fun stack held => ?_
    exact (same stack (lockstep.frames stack held)).symm
  cases does with
  | quiet ids log => exact ⟨[], Option.map_id'.symm⟩
  | recorded _ change => exact ⟨[.record change], rfl⟩
  | @wrote _ write fits => exact ⟨[.record write.change], before.changes_wrote write⟩
  | opened => exact ⟨[.openScope], rfl⟩
  | kept opened =>
      refine ⟨[.commitScope], closing fun stack length => ?_⟩
      rw [ChangeStack.perform, ChangeStack.commitScope_of_open (length ▸ opened)]
      rfl
  | discarded opened =>
      refine ⟨[.rollBackScope], closing fun stack length => ?_⟩
      rw [ChangeStack.perform, ChangeStack.rollBackScope_of_open (length ▸ opened)]
      rfl

/-- **The stack of a handle is one to which steps were done.** -/
theorem Lockstep.changes_play {handle : Handle} (lockstep : handle.Lockstep) (moves : List Move) :
    ∃ steps : List ChangeStack.Step,
      (handle.play moves).changes = handle.changes.map fun stack => stack.play steps := by
  refine lockstep.play_induction (motive := fun _ after => ∃ steps : List ChangeStack.Step,
    after.changes = handle.changes.map fun stack => stack.play steps) ?_ ?_ moves
  · intro past deed before after lockstep does
    rintro ⟨steps, played⟩
    obtain ⟨next, changed⟩ := does.changes_eq lockstep
    refine ⟨steps ++ next, ?_⟩
    rw [changed, played, Option.map_map]
    congr 1
    funext stack
    exact (List.foldl_append).symm
  · exact ⟨[], Option.map_id'.symm⟩

/-- What is pending is filed under the address of its object. -/
theorem get?_of_mem_values_play (content : Database) (tracked : Bool) (ids : IdSource) (now : Int)
    (moves : List Move) {change : Change}
    (pending : change ∈ ((start content tracked ids now).play moves).allPending.values) :
    ((start content tracked ids now).play moves).allPending.get? change.ref = some change := by
  obtain ⟨steps, played⟩ := (lockstep_start content tracked ids now).changes_play moves
  rw [allPending, played] at pending ⊢
  cases tracked with
  | false => cases pending
  | true =>
      have holds := ChangeStack.snapshot_holds steps
      exact (holds change.ref).trans ((holds.mem_values change).1 pending)

/-- **What is pending is in order**: there is one change of each changed object, under its own
address. -/
theorem values_increasing_play (content : Database) (tracked : Bool) (ids : IdSource) (now : Int)
    (moves : List Move) :
    ((start content tracked ids now).play moves).allPending.values.Pairwise
      fun earlier later => compare earlier.ref later.ref = .lt := by
  obtain ⟨steps, played⟩ := (lockstep_start content tracked ids now).changes_play moves
  rw [allPending, played]
  cases tracked with
  | false => exact .nil
  | true => exact (ChangeStack.snapshot_holds steps).values_increasing

end Handle

end ScopedStore
