import ScopedStore.Domain.Graph
import ScopedStore.Proofs.Failures

/-!
# What a transaction does when it succeeds

Work that may fail goes on only where it succeeds. So a whole that has succeeded has taken every
step with success, and the handle behind it is reached step by step (`Transaction.gives_bind`).
Work in a scope of its own succeeds with what the work inside gives (`Transaction.gives_nested`),
and is undone where that fails (`Handle.Lockstep.nested_leaves_no_trace`).

Work that writes in a scope of its own is done as a whole or not at all
(`Transaction.AllOrNothing`). So a property of the content that no such work breaks where it
succeeds is kept by every tree of such work, whatever fails in it and is caught (`Work.Preserves`).
-/

set_option autoImplicit false

namespace ScopedStore

namespace Work

theorem run_bind {α β : Type} (work : Work α) (next : α → Work β) (handle : Handle) :
    (work.bind next).run handle = (next (work.run handle).1).run (work.run handle).2 := by
  induction work generalizing handle with
  | done value => rfl
  | call operation rest ih => exact ih _ next _
  | scope body ending rest _ ih =>
      rw [bind, run_scope, run_scope]
      cases ending (body.run handle.openScope).1 with
      | keep => exact ih _ _ next _
      | discard | unwind => exact ih _ _ next _

theorem bind_done {α : Type} (work : Work α) : work.bind done = work := by
  induction work with
  | done value => rfl
  | call operation rest ih => exact congrArg (call operation) (funext ih)
  | scope body ending rest _ ih =>
      exact congrArg (scope body ending) (funext fun value => funext (ih value))

end Work

/-- The scope of some work is open after it. -/
theorem Handle.Lockstep.open_inside {handle : Handle} (lockstep : handle.Lockstep) {α : Type}
    (work : Work α) : 0 < (work.run handle.openScope).2.depth := by
  have depth : (work.run handle.openScope).2.depth = handle.depth + 1 :=
    (lockstep.inside work).2.1.depth
  exact depth ▸ Nat.succ_pos handle.depth

/-- An operation leaves the content as it was, or it makes a write that fits. -/
theorem Handle.content_perform {α : Type} (handle : Handle) (operation : Operation α) :
    (handle.perform operation).2.content = handle.content ∨
      ∃ write : Write, write.Fits handle.content ∧
        (handle.perform operation).2.content = write.apply handle.now handle.content := by
  have does := handle.does_perform operation
  have flat := operation.deed_flat (handle.perform operation).1
  generalize operation.deed (handle.perform operation).1 = deed at does flat
  generalize (handle.perform operation).2 = after at does ⊢
  cases does with
  | quiet | recorded => exact .inl rfl
  | wrote fits => exact .inr ⟨_, fits, handle.content_wrote _⟩
  | opened => exact absurd rfl flat.1
  | kept => exact absurd rfl flat.2.1
  | discarded => exact absurd rfl flat.2.2

namespace Transaction

variable {α β : Type} {handle after : Handle} {value : α}

/-- The work succeeds with a value, and this is the handle after it. -/
def Gives (work : Transaction α) (handle : Handle) (value : α) (after : Handle) : Prop :=
  Work.run work.run handle = (.ok value, after)

theorem gives_of_answer {work : Transaction α} (answer : (Work.run work.run handle).1 = .ok value) :
    Gives work handle value (Work.run work.run handle).2 :=
  Prod.ext answer rfl

theorem gives_pure {other : α} :
    Gives (pure other : Transaction α) handle value after ↔ other = value ∧ after = handle := by
  constructor
  · intro given
    cases given
    exact ⟨rfl, rfl⟩
  · rintro ⟨rfl, rfl⟩
    rfl

theorem not_gives_throw {cause : StoreError} :
    ¬Gives (throw cause : Transaction α) handle value after := nofun

theorem run_bind (first : Transaction α) (next : α → Transaction β) (handle : Handle) :
    Work.run (first >>= next).run handle =
      Work.run (ExceptT.bindCont next (Work.run first.run handle).1)
        (Work.run first.run handle).2 :=
  Work.run_bind first.run (ExceptT.bindCont next) handle

/-- **A sequence succeeds exactly if both parts succeed**, one behind the other. -/
theorem gives_bind {first : Transaction α} {next : α → Transaction β} {result : β} :
    Gives (first >>= next) handle result after ↔
      ∃ middle between, Gives first handle middle between ∧
        Gives (next middle) between result after := by
  have sequence := run_bind first next handle
  constructor
  · intro given
    rw [Gives, sequence] at given
    cases done : Work.run first.run handle with
    | mk answer between =>
        rw [done] at given
        cases answer with
        | ok middle => exact ⟨middle, between, done, given⟩
        | error cause => cases given
  · rintro ⟨middle, between, done, rest⟩
    rw [Gives, sequence, done]
    exact rest

theorem gives_ask {operation : Operation (Except StoreError α)} :
    Gives (ask operation) handle value after ↔ handle.perform operation = (.ok value, after) :=
  Iff.rfl

theorem gives_mustGet {kind : Kind} {id : String} {body : kind.Body} :
    Gives (mustGet kind id) handle body after ↔
      handle.get kind id = .ok (some body) ∧ after = handle := by
  constructor
  · intro given
    obtain ⟨found, between, asked, rest⟩ := gives_bind.1 given
    obtain ⟨answer, same⟩ := Prod.ext_iff.1 (gives_ask.1 asked)
    cases found with
    | none => exact absurd rest not_gives_throw
    | some held =>
        obtain ⟨rfl, rfl⟩ := gives_pure.1 rest
        exact ⟨answer, same.symm⟩
  · rintro ⟨found, rfl⟩
    exact gives_bind.2 ⟨some body, after, gives_ask.2 (Prod.ext found rfl), gives_pure.2 ⟨rfl, rfl⟩⟩

section Writes

variable {kind : Kind} {body stored : kind.Body}

theorem settle_gives {answer : α} {done : Except StoreError (α × Handle)}
    (given : handle.settle done = (.ok answer, after)) : done = .ok (answer, after) := by
  obtain ⟨last, written, same⟩ := Handle.settle_eq_ok (congrArg Prod.fst given)
  rw [written, ← same, given]

theorem gives_insert (given : Gives (ask (.insert kind body)) handle stored after) :
    stored = kind.withVersion body 1 ∧ (Write.inserted ⟨kind, stored⟩).Fits handle.content ∧
      after = handle.wrote (.inserted ⟨kind, stored⟩) :=
  Handle.insert_eq_ok (settle_gives (gives_ask.1 given))

theorem gives_update (given : Gives (ask (.update kind body)) handle stored after) :
    (∃ version, stored = kind.withVersion body version) ∧
      (Write.updated ⟨kind, stored⟩).Fits handle.content ∧
      after = handle.wrote (.updated ⟨kind, stored⟩) := by
  obtain ⟨next, fits, written⟩ := Handle.update_eq_ok (settle_gives (gives_ask.1 given))
  exact ⟨⟨_, next⟩, fits, written⟩

theorem gives_delete {id : String} {existed : Bool}
    (given : Gives (ask (.delete kind id)) handle existed after) :
    (existed = true ∧ (Write.deleted ⟨kind, id⟩).Fits handle.content ∧
      after = handle.wrote (.deleted ⟨kind, id⟩)) ∨
    (existed = false ∧ handle.content.row? ⟨kind, id⟩ = none ∧ after = handle) := by
  have done := settle_gives (gives_ask.1 given)
  refine (Handle.delete_eq_ok done).imp_right fun ⟨missing, same⟩ => ⟨missing, ?_, same⟩
  rw [← Option.isNone_iff_eq_none, ← Option.not_isSome, ← Handle.existed_of_delete done, missing]
  rfl

end Writes

/-! ## Scopes -/

/-- **Work in a scope of its own** succeeds exactly if the work inside succeeds; the scope is then
kept. -/
theorem gives_nested (lockstep : handle.Lockstep) {work : Transaction α} :
    Gives (nested work) handle value after ↔
      ∃ inside, Gives work handle.openScope value inside ∧ after = inside.kept := by
  obtain ⟨inside, _, _⟩ := lockstep.inside work.run
  have opened := lockstep.open_inside work.run
  have closed : Work.run (nested work).run handle = _ :=
    Work.run_scope work.run ending _ handle
  rw [Gives, closed]
  cases done : Work.run work.run handle.openScope with
  | mk answer last =>
      rw [done] at inside opened
      cases answer with
      | ok held =>
          dsimp only [ending]
          rw [inside.commitScope_of_open opened]
          constructor
          · intro given
            cases given
            exact ⟨last, done, rfl⟩
          · rintro ⟨_, given, rfl⟩
            cases done.symm.trans given
            rfl
      | error cause =>
          constructor
          · intro given
            cases given
          · rintro ⟨_, given, _⟩
            cases done.symm.trans given

end Transaction

/-! ## What is kept -/

namespace Work

variable {α β : Type} {property : Database → Prop}

/-- Where the content has the property, it has it after the work. -/
def Preserves (property : Database → Prop) (work : Work α) : Prop :=
  ∀ handle : Handle, handle.Lockstep → property handle.content →
    property (work.run handle).2.content

theorem lockstep_run {handle : Handle} (lockstep : handle.Lockstep) (work : Work α) :
    (work.run handle).2.Lockstep := by
  rw [work.run_eq_play]
  exact lockstep.play _

theorem preserves_done (value : α) : (done value).Preserves property := fun _ _ holds => holds

theorem Preserves.bind {work : Work α} {next : α → Work β} (first : work.Preserves property)
    (rest : ∀ value, (next value).Preserves property) :
    (work.bind next).Preserves property := by
  intro handle lockstep holds
  rw [run_bind]
  exact rest _ _ (lockstep_run lockstep work) (first handle lockstep holds)

/-- **A scope preserves what its work preserves**, whether it is kept or discarded. -/
theorem Preserves.scope {body : Work α} {ending : α → Ending}
    {next : α → Except StoreError Unit → Work β} (inside : body.Preserves property)
    (rest : ∀ value closing, (next value closing).Preserves property) :
    (Work.scope body ending next).Preserves property := by
  intro handle lockstep holds
  have opened : handle.openScope.Lockstep := (Handle.Does.opened handle).lockstep lockstep
  obtain ⟨within, _, _⟩ := lockstep.inside body
  have depth := lockstep.open_inside body
  rw [run_scope]
  cases ending (body.run handle.openScope).1 with
  | keep =>
      dsimp only
      rw [within.commitScope_of_open depth]
      refine rest _ _ _ ((Handle.Does.kept depth).lockstep within) ?_
      exact inside handle.openScope opened holds
  | discard | unwind =>
      dsimp only
      refine rest _ _ _ ?_ ?_
      · rw [within.abandonScope_of_open depth]
        exact (Handle.Does.discarded depth).lockstep within
      · rw [(lockstep.sameData_abandonScope body).content]
        exact holds

/-- **What every write preserves, all work preserves.** -/
theorem preserves_of_writes (writes : ∀ {database : Database} {write : Write} (now : Int),
    write.Fits database → property database → property (write.apply now database)) :
    ∀ {α : Type} (work : Work α), work.Preserves property
  | _, .done value => preserves_done value
  | _, .call operation next => fun handle lockstep holds => by
      refine preserves_of_writes writes (next (handle.perform operation).1) _
        ((handle.does_perform operation).lockstep lockstep) ?_
      rcases handle.content_perform operation with same | ⟨write, fits, written⟩
      · exact same ▸ holds
      · exact written ▸ writes handle.now fits holds
  | _, .scope body ending next =>
      (preserves_of_writes writes body).scope fun value closing =>
        preserves_of_writes writes (next value closing)

end Work

/-! ## Work that fails -/

namespace Transaction

variable {α β : Type}

/-- The work leaves everything as it was. -/
def Reads (work : Transaction α) : Prop :=
  ∀ handle : Handle, (Work.run work.run handle).2 = handle

theorem reads_pure (value : α) : (pure value : Transaction α).Reads := fun _ => rfl

theorem reads_throw (cause : StoreError) : (throw cause : Transaction α).Reads := fun _ => rfl

theorem Reads.bind {first : Transaction α} {next : α → Transaction β} (reads : first.Reads)
    (later : ∀ value, (next value).Reads) : (first >>= next).Reads := by
  intro handle
  rw [run_bind, reads handle]
  cases (Work.run first.run handle).1 with
  | ok value => exact later value handle
  | error cause => rfl

/-- The work leaves the content as it was where it fails. -/
def AllOrNothing (work : Transaction α) : Prop :=
  ∀ handle : Handle, handle.Lockstep → ∀ cause, (Work.run work.run handle).1 = .error cause →
    (Work.run work.run handle).2.content = handle.content

theorem Reads.allOrNothing {work : Transaction α} (reads : work.Reads) : work.AllOrNothing := by
  intro handle _ cause _
  rw [reads handle]

namespace AllOrNothing

theorem insert (kind : Kind) (body : kind.Body) : (ask (.insert kind body)).AllOrNothing := by
  intro handle _ cause failed
  have settled : Work.run (ask (.insert kind body)).run handle =
      handle.settle (handle.insert kind body) := rfl
  rw [settled] at failed ⊢
  cases done : handle.insert kind body with
  | error cause => rfl
  | ok result =>
      rw [done] at failed
      cases failed

theorem afterDraw {next : String → Transaction α} (later : ∀ id, (next id).AllOrNothing) :
    (draw >>= next).AllOrNothing := fun handle lockstep =>
  later handle.ids.draw.1 { handle with ids := handle.ids.draw.2 }
    ⟨lockstep.savepoints, lockstep.written, lockstep.frames⟩

theorem nested (work : Transaction α) : (nested work).AllOrNothing := by
  intro handle lockstep cause failed
  obtain ⟨same, undone⟩ := lockstep.nested_leaves_no_trace work
  exact (undone cause (same.symm.trans failed)).content

theorem map {work : Transaction α} (whole : work.AllOrNothing) (answer : α → β) :
    (work >>= fun value => pure (answer value)).AllOrNothing := by
  intro handle lockstep cause failed
  rw [run_bind] at failed ⊢
  cases done : (Work.run work.run handle).1 with
  | ok value =>
      rw [done] at failed
      cases failed
  | error other => exact whole handle lockstep other done

/-- Work that is done as a whole or not at all preserves what it preserves where it succeeds. -/
theorem preserves {work : Transaction α} (whole : work.AllOrNothing)
    {property : Database → Prop}
    (succeeds : ∀ handle after value, handle.Lockstep → property handle.content →
      work.Gives handle value after → property after.content) :
    Work.Preserves property work.run := by
  intro handle lockstep holds
  cases answer : (Work.run work.run handle).1 with
  | ok value => exact succeeds handle _ value lockstep holds (gives_of_answer answer)
  | error cause =>
      rw [whole handle lockstep cause answer]
      exact holds

end AllOrNothing

end Transaction

/-! ## Requests that only read -/

namespace Graph

open Transaction

theorem reads_mustGet (kind : Kind) (id : String) : (mustGet kind id).Reads := by
  refine Reads.bind (fun _ => rfl) fun found => ?_
  cases found with
  | some body => exact reads_pure body
  | none => exact reads_throw _

theorem reads_getClient : getClient.Reads := by
  refine Reads.bind (fun _ => rfl) fun clients => ?_
  cases clients with
  | cons client others => exact reads_pure client
  | nil => exact reads_throw _

theorem reads_getWindowView (windowId : String) : (getWindowView windowId).Reads :=
  (reads_mustGet .window windowId).bind fun _ => reads_pure _

theorem reads_getMainView : getMainView.Reads :=
  reads_getClient.bind fun client => reads_getWindowView client.mainWindowId

end Graph

end ScopedStore
