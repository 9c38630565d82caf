import ScopedStore.Proofs.Logs.Requests

/-!
# Steps of a transaction

What is done in a transaction can be told as a list of steps: an operation, a request with the
answer that it gave, the opening of a scope and its end. Every run of every program can be told
in steps (`Work.exists_goes`), and often in several ways, because a request is a step and is made
of operations.

Steps of the same shape, taken on handles of the same shape, keep the shape
(`Handle.Takes.sameShape`), and so do whole lists of them (`Handle.Walks.sameShape`). The
programs themselves may be different ones, and go on differently after what they are told.
-/

set_option autoImplicit false

namespace ScopedStore

/-- Something that is done in a transaction: an operation, a request with the answer that it gave,
and a scope that is opened, or the innermost one that is closed. -/
inductive Step : Type 1
  | operation {α : Type} (operation : Operation α)
  | request (request : Request) (answer : Except StoreError Response)
  | opened
  | closed (ending : Ending)

/-- **The steps are the same but for what the objects say**: they are about the same kinds, ids
and versions, and requests end alike. -/
inductive Step.SameShape : Step → Step → Prop
  | operation {α : Type} {operation other : Operation α} (shape : operation.SameShape other) :
      SameShape (.operation operation) (.operation other)
  | request {request other : Request} {answer answer' : Except StoreError Response}
      (shape : request.SameShape other) (ends : EndsAlike answer answer') :
      SameShape (.request request answer) (.request other answer')
  | opened : SameShape .opened .opened
  | closed (ending : Ending) : SameShape (.closed ending) (.closed ending)

namespace Handle

/-- A step, the handle in front of it and the one behind it. -/
inductive Takes : Step → Handle → Handle → Prop
  | operation {α : Type} (operation : Operation α) (handle : Handle) :
      Takes (.operation operation) handle (handle.perform operation).2
  | request (request : Request) (handle : Handle) :
      Takes (.request request (Work.run request.answer.run handle).1) handle
        (Work.run request.answer.run handle).2
  | opened (handle : Handle) : Takes .opened handle handle.openScope
  | closed {handle : Handle} (opened : 0 < handle.depth) (ending : Ending) :
      Takes (.closed ending) handle (handle.closed ending)

/-- Some steps, one after the other. -/
inductive Walks : List Step → Handle → Handle → Prop
  | nil (handle : Handle) : Walks [] handle handle
  | cons {step : Step} {steps : List Step} {handle between last : Handle}
      (takes : Takes step handle between) (rest : Walks steps between last) :
      Walks (step :: steps) handle last

variable {step step' : Step} {steps steps' : List Step} {first second between last last' : Handle}

theorem Takes.lockstep (takes : Takes step first last) (lockstep : first.Lockstep) :
    last.Lockstep := by
  cases takes with
  | operation operation => exact (first.does_perform operation).lockstep lockstep
  | request request => exact Work.lockstep_run lockstep request.answer.run
  | opened => exact (Does.opened first).lockstep lockstep
  | closed opened ending => exact lockstep.closed opened ending

/-- **A step of the same shape keeps the shape.** -/
theorem Takes.sameShape (takes : Takes step first last) (takes' : Takes step' second last')
    (shape : step.SameShape step') (lockstep : first.Lockstep) (lockstep' : second.Lockstep)
    (same : first.SameShape second) : last.SameShape last' := by
  cases shape with
  | operation shape =>
      cases takes
      cases takes'
      exact same.perform shape
  | request shape ends =>
      cases takes
      cases takes'
      exact shape.shaped _ _ lockstep lockstep' same ends
  | opened =>
      cases takes
      cases takes'
      exact same.openScope
  | closed ending =>
      cases takes
      cases takes'
      exact same.closed ending

theorem Walks.append (walks : Walks steps first between)
    (rest : Walks steps' between last) : Walks (steps ++ steps') first last := by
  induction walks with
  | nil => exact rest
  | cons takes _ ih => exact .cons takes (ih rest)

/-- **Steps of the same shape keep the shape.** -/
theorem Walks.sameShape (shapes : List.Forall₂ Step.SameShape steps steps')
    (walks : Walks steps first last) (walks' : Walks steps' second last')
    (lockstep : first.Lockstep) (lockstep' : second.Lockstep) (same : first.SameShape second) :
    last.SameShape last' := by
  induction shapes generalizing first second with
  | nil =>
      cases walks
      cases walks'
      exact same
  | cons shape _ ih =>
      cases walks with
      | cons takes rest =>
          cases walks' with
          | cons takes' rest' =>
              exact ih rest rest' (takes.lockstep lockstep) (takes'.lockstep lockstep')
                (takes.sameShape takes' shape lockstep lockstep' same)

end Handle

/-! ## Programs in steps -/

namespace Work

/-- **The run of a program, told in steps.** Wherever the program goes on with the answer of a
request, the request is one step. -/
inductive Goes : {α : Type} → Work α → Handle → List Step → α → Handle → Prop
  | done {α : Type} (value : α) (handle : Handle) : Goes (done value) handle [] value handle
  | call {α β : Type} (operation : Operation β) {next : β → Work α} {handle last : Handle}
      {steps : List Step} {value : α}
      (rest : Goes (next (handle.perform operation).1) (handle.perform operation).2 steps value last) :
      Goes (call operation next) handle (.operation operation :: steps) value last
  | request {α : Type} (request : Request) {next : Except StoreError Response → Work α}
      {handle last : Handle} {steps : List Step} {value : α}
      (rest : Goes (next (run request.answer.run handle).1) (run request.answer.run handle).2 steps
        value last) :
      Goes (bind request.answer.run next) handle
        (.request request (run request.answer.run handle).1 :: steps) value last
  | scope {α β : Type} {body : Work β} {ending : β → Ending}
      {next : β → Except StoreError Unit → Work α} {handle inside last : Handle}
      {inner rest : List Step} {value : β} {result : α}
      (within : Goes body handle.openScope inner value inside)
      (behind : Goes (next value (inside.close (ending value)).1)
        (inside.close (ending value)).2 rest result last) :
      Goes (scope body ending next) handle (.opened :: inner ++ .closed (ending value) :: rest)
        result last

variable {α : Type} {work : Work α} {handle last : Handle} {steps : List Step} {value : α}

/-- Such a run is the run of the program. -/
theorem Goes.run_eq (goes : work.Goes handle steps value last) : work.run handle = (value, last) := by
  induction goes with
  | done value handle => rfl
  | call operation _ ih => exact ih
  | request request _ ih =>
      rw [run_bind]
      exact ih
  | scope _ _ within behind =>
      rw [run_scope_close, within]
      exact behind

/-- **Every run can be told in steps.** -/
theorem exists_goes : ∀ {α : Type} (work : Work α) (handle : Handle),
    ∃ steps, work.Goes handle steps (work.run handle).1 (work.run handle).2
  | _, .done value, handle => ⟨[], .done value handle⟩
  | _, .call operation next, handle => by
      obtain ⟨steps, rest⟩ :=
        exists_goes (next (handle.perform operation).1) (handle.perform operation).2
      exact ⟨_, .call operation rest⟩
  | _, .scope body ending next, handle => by
      obtain ⟨inner, within⟩ := exists_goes body handle.openScope
      obtain ⟨rest, behind⟩ := exists_goes (next (body.run handle.openScope).1
        ((body.run handle.openScope).2.close (ending (body.run handle.openScope).1)).1)
        ((body.run handle.openScope).2.close (ending (body.run handle.openScope).1)).2
      rw [run_scope_close]
      exact ⟨_, .scope within behind⟩

/-- The handle goes through the steps. -/
theorem Goes.walks (goes : work.Goes handle steps value last) (lockstep : handle.Lockstep) :
    Handle.Walks steps handle last := by
  induction goes with
  | done value handle => exact .nil handle
  | call operation _ ih =>
      exact .cons (.operation operation _) (ih ((Handle.does_perform _ operation).lockstep lockstep))
  | request request _ ih =>
      exact .cons (.request request _) (ih (lockstep_run lockstep request.answer.run))
  | @scope _ _ body ending next handle inside last inner rest value result within _ ih ihBehind =>
      have opened := (Handle.Does.opened handle).lockstep lockstep
      have ran := within.run_eq
      have inLockstep : inside.Lockstep := by
        have after := (lockstep.inside body).1
        rwa [ran] at after
      have deep : 0 < inside.depth := by
        have after := lockstep.open_inside body
        rwa [ran] at after
      have closes := inLockstep.close_of_open deep (ending value)
      rw [closes] at ihBehind
      have before : Handle.Walks (.opened :: inner) handle inside :=
        .cons (.opened handle) (ih opened)
      exact before.append (.cons (.closed deep (ending value))
        (ihBehind (inLockstep.closed deep (ending value))))

end Work

end ScopedStore
