import ScopedStore.Domain.Service
import ScopedStore.Proofs.Failures
import ScopedStore.Proofs.Graph.Requests
import ScopedStore.Proofs.Pending
import ScopedStore.Proofs.SideBySide

/-!
# Any sequence of transactions keeps the graph whole

A caller may put requests together to transactions of its own, with scopes that fail and failures
that are caught (`Plan`). Whatever it does and whatever becomes of it, the committed content stays
whole: a transaction that is not committed leaves it as it was, and one that is committed leaves
what its work has left (`graph_stays_whole`). Ids are drawn from any source, so an id may be drawn
that is taken or that was deleted before; then the object is refused, or it is a new one.

Once the first data was set up there is a client, and what its main window shows can be read, as
long as no version has outgrown 64 bits.
-/

set_option autoImplicit false

namespace ScopedStore

/-! ## Plans -/

/-- Requests in a transaction, and what is done with their answers. -/
inductive Plan : Type → Type 1
  | done {α : Type} (value : α) : Plan α
  | ask {α : Type} (request : Request) (next : Except StoreError Response → Plan α) : Plan α
  | scope {α β : Type} (body : Plan β) (ending : β → Ending)
      (next : β → Except StoreError Unit → Plan α) : Plan α

namespace Plan

/-- The work of a plan. -/
def work {α : Type} : Plan α → Work α
  | done value => .done value
  | ask request next => Work.bind request.answer.run fun answer => (next answer).work
  | scope body ending next => .scope body.work ending fun value closing => (next value closing).work

/-- **Every plan preserves what the requests preserve**, whatever fails in it and is caught. -/
theorem preserves {property : Database → Prop}
    (requests : ∀ request : Request, Work.Preserves property request.answer.run) :
    ∀ {α : Type} (plan : Plan α), plan.work.Preserves property
  | _, done value => Work.preserves_done value
  | _, ask request next => (requests request).bind fun answer => (next answer).preserves requests
  | _, scope body _ next =>
      (body.preserves requests).scope fun value closing => (next value closing).preserves requests

end Plan

/-! ## Transactions -/

namespace Store

variable {α : Type} {store : Store} {property : Database → Prop}

/-- **What work preserves, a transaction preserves**, whether it is committed or not. -/
theorem attempt_preserves (holds : property store.database) (tracked : Bool) {work : Work α}
    {ending : α → Ending} (preserves : work.Preserves property) :
    property (store.attempt tracked work ending).2.database := by
  by_cases committed : (store.attempt tracked work ending).1.Committed ending
  · rw [(store.attempt_of_committed tracked work ending committed).2]
    have started := Handle.lockstep_start store.database tracked store.ids store.now
    exact preserves _ ((Handle.Does.opened _).lockstep started) holds
  · obtain ⟨_, ids, log, after⟩ := store.attempt_of_failed tracked work ending committed
    rw [after]
    exact holds

theorem database_runTracked (store : Store) (work : Work α) (ending : α → Ending) :
    (store.runTracked work ending).2.database = (store.attempt true work ending).2.database := by
  rw [runTracked_eq]
  rfl

/-- An untracked transaction is refused for a timeout, or it is attempted. -/
theorem runUntracked_cases (store : Store) (work : Work α) (ending : α → Ending) :
    (∃ refusal, store.runUntracked work ending = (.error refusal, store)) ∨
      ∃ busyTimeout, let ran := ({ store with busyTimeout } : Store).attempt false work ending
        (store.runUntracked work ending).1 = .ok ran.1 ∧
          (store.runUntracked work ending).2.database = ran.2.database := by
  cases fits : engineTimeout store.config.initialTimeout with
  | error refusal => exact .inl ⟨refusal, runUntracked_of_long fits work ending⟩
  | ok waiting =>
      obtain ⟨outcome, _, left⟩ := runUntracked_of_fits fits work ending
      exact .inr ⟨waiting, outcome, by rw [left]⟩

/-- **Work that may fail leaves in a transaction what it leaves by itself**, if the transaction has
an answer; otherwise the database is as it was. -/
theorem attempt_answers (store : Store) (tracked : Bool) (work : Transaction α) :
    let start := (Handle.start store.database tracked store.ids store.now).openScope
    let ran := store.attempt tracked work.run Transaction.ending
    (∃ value changes after, ran.1.answer = .ok (value, changes) ∧ work.Gives start value after ∧
      ran.2.database = after.content) ∨
    ∃ cause, ran.1.answer = .error cause ∧ ran.2.database = store.database := by
  intro start ran
  have given : ran.1.Gives (work.run.run start).1 :=
    store.attempt_gives tracked work.run Transaction.ending
  by_cases committed : ran.1.Committed Transaction.ending
  · have left : ran.2.database = (work.run.run start).2.content :=
      (store.attempt_of_committed tracked work.run Transaction.ending committed).2
    match outcome : ran.1 with
    | .refused cause =>
        rw [outcome] at committed
        exact committed.elim
    | .ended (.error cause) changes =>
        rw [outcome] at committed
        cases committed.1
    | .ended (.ok value) (.error cause) =>
        rw [outcome] at committed
        obtain ⟨_, _, failed⟩ := committed
        cases failed
    | .ended (.ok value) (.ok changes) =>
        rw [outcome] at given
        exact .inl ⟨value, changes, _, rfl, Transaction.gives_of_answer given.symm, left⟩
  · obtain ⟨_, ids, log, after⟩ := store.attempt_of_failed tracked work.run _ committed
    have same : ran.2.database = store.database := by
      have left : ran.2 = _ := after
      rw [left]
    match outcome : ran.1 with
    | .refused cause => exact .inr ⟨cause, rfl, same⟩
    | .ended (.error cause) changes => exact .inr ⟨cause, rfl, same⟩
    | .ended (.ok value) (.error cause) => exact .inr ⟨cause, rfl, same⟩
    | .ended (.ok value) (.ok changes) =>
        rw [outcome] at committed
        exact absurd ⟨rfl, changes, rfl⟩ committed

/-- The same of a tracked transaction. -/
theorem transactValue_answers (store : Store) (work : Transaction α) :
    let start := (Handle.start store.database true store.ids store.now).openScope
    (∃ value after, (store.transactValue work).1 = .ok value ∧ work.Gives start value after ∧
      (store.transactValue work).2.database = after.content) ∨
    ∃ cause, (store.transactValue work).1 = .error cause ∧
      (store.transactValue work).2.database = store.database := by
  intro start
  rw [transactValue, transact, runTracked_eq]
  dsimp only [publish, noteAll]
  rcases store.attempt_answers true work with ⟨value, changes, after, answer, given, left⟩ | failed
  · exact .inl ⟨value, after, by rw [answer]; rfl, given, left⟩
  · obtain ⟨cause, answer, same⟩ := failed
    exact .inr ⟨cause, by rw [answer]; rfl, same⟩

/-- **An undisturbed transaction answers what its work gives.** -/
theorem transactValue_of_free (free : store.contention = .free) {work : Transaction α} {value : α}
    {after : Handle}
    (given : work.Gives (Handle.start store.database true store.ids store.now).openScope value after) :
    (store.transactValue work).1 = .ok value := by
  rw [transactValue, transact, runTracked_eq, attempt_eq, free, if_neg (by decide)]
  dsimp only
  rw [given]
  dsimp only [Transaction.ending, absorb, commit]
  rw [if_neg (free ▸ by decide)]
  rfl

/-- The same of an untracked transaction. -/
theorem transactUntracked_answers (store : Store) (work : Transaction α) :
    let start := (Handle.start store.database false store.ids store.now).openScope
    (∃ value after, (store.transactUntracked work).1 = .ok value ∧ work.Gives start value after ∧
      (store.transactUntracked work).2.database = after.content) ∨
    ∃ refusal, (store.transactUntracked work).1 = .error refusal ∧
      (store.transactUntracked work).2.database = store.database := by
  intro start
  rw [transactUntracked]
  rcases store.runUntracked_cases work.run Transaction.ending with ⟨refusal, same⟩ | ran
  · rw [same]
    exact .inr ⟨refusal, rfl, rfl⟩
  · obtain ⟨busyTimeout, outcome, database⟩ := ran
    have answers := ({ store with busyTimeout } : Store).attempt_answers false work
    generalize store.runUntracked work.run Transaction.ending = ran at outcome database ⊢
    obtain ⟨result, last⟩ := ran
    subst outcome
    dsimp only at database answers ⊢
    rw [← database] at answers
    rcases answers with ⟨value, changes, after, answer, given, left⟩ | ⟨cause, answer, same⟩
    · rw [answer]
      exact .inl ⟨value, after, rfl, given, left⟩
    · rw [answer]
      exact .inr ⟨.failure cause, rfl, same⟩

/-- The same of the first data. -/
theorem ensureInitialData_answers (store : Store) :
    let start := (Handle.start store.database false store.ids store.now).openScope
    (∃ value after, (Service.ensureInitialData store).1 = .ok value.isSome ∧
      Transaction.Gives Graph.seed start value after ∧
      (Service.ensureInitialData store).2.database = after.content) ∨
    ∃ refusal, (Service.ensureInitialData store).1 = .error refusal ∧
      (Service.ensureInitialData store).2.database = store.database := by
  intro start
  rw [Service.ensureInitialData]
  have answers := store.transactUntracked_answers Graph.seed
  generalize store.transactUntracked Graph.seed = ran at answers
  obtain ⟨result, last⟩ := ran
  rcases answers with ⟨value, after, rfl, given, left⟩ | ⟨refusal, rfl, same⟩
  · cases value with
    | none => exact .inl ⟨none, after, rfl, given, left⟩
    | some client => exact .inl ⟨some client, after, rfl, given, left⟩
  · exact .inr ⟨refusal, rfl, same⟩

/-- **The first data keeps the graph intact**, and there is a client afterwards if it succeeds. -/
theorem intact_ensureInitialData {seeded : Prop} (intact : store.database.Intact seeded) :
    (Service.ensureInitialData store).2.database.Intact
      (seeded ∨ ∃ answer, (Service.ensureInitialData store).1 = .ok answer) := by
  rcases store.ensureInitialData_answers with ⟨value, after, _, given, left⟩ | failed
  · rw [left]
    exact (Graph.intact_seed intact given).weaken fun _ => trivial
  · obtain ⟨refusal, failed, same⟩ := failed
    rw [same]
    refine intact.weaken fun either => Or.resolve_right either fun ⟨answer, set⟩ => ?_
    cases failed.symm.trans set

/-- A store that was empty once, after any requests and transactions of requests, and whether its
first data was set up with success meanwhile. All but the content may change in between: the ids to
come, the time, what others do with the file, and who is told about changes. -/
inductive Reached : Prop → Store → Prop
  | empty {store : Store} (empty : store.database = .vacant) : Reached False store
  | answered {seeded : Prop} {store : Store} (reached : Reached seeded store) (request : Request) :
      Reached seeded (Service.handle store request).2
  | tracked {seeded : Prop} {store : Store} (reached : Reached seeded store) {α : Type}
      (plan : Plan α) (ending : α → Ending) : Reached seeded (store.runTracked plan.work ending).2
  | untracked {seeded : Prop} {store : Store} (reached : Reached seeded store) {α : Type}
      (plan : Plan α) (ending : α → Ending) : Reached seeded (store.runUntracked plan.work ending).2
  | prepared {seeded : Prop} {store : Store} (reached : Reached seeded store) :
      Reached (seeded ∨ ∃ answer, (Service.ensureInitialData store).1 = .ok answer)
        (Service.ensureInitialData store).2
  | meanwhile {seeded : Prop} {store other : Store} (reached : Reached seeded store)
      (same : other.database = store.database) : Reached seeded other

/-- **What requests preserve and the first data leaves is true of every store that can be reached.**
What is true may depend on whether the first data was set up. -/
theorem Reached.induction {motive : Prop → Database → Prop} (vacant : motive False .vacant)
    (requests : ∀ (seeded : Prop) (request : Request),
      Work.Preserves (motive seeded) request.answer.run)
    (first : ∀ {seeded : Prop} {store : Store}, motive seeded store.database →
      motive (seeded ∨ ∃ answer, (Service.ensureInitialData store).1 = .ok answer)
        (Service.ensureInitialData store).2.database)
    {seeded : Prop} (reached : Reached seeded store) : motive seeded store.database := by
  induction reached with
  | empty empty => exact empty ▸ vacant
  | @answered seeded store _ request ih =>
      have same : (Service.handle store request).2.database = _ :=
        store.database_runTracked request.answer.run Transaction.ending
      rw [same]
      exact attempt_preserves ih true (requests seeded request)
  | @tracked seeded store _ _ plan ending ih =>
      rw [database_runTracked]
      exact attempt_preserves ih true (plan.preserves (requests seeded))
  | @untracked seeded store _ _ plan ending ih =>
      rcases store.runUntracked_cases plan.work ending with ⟨refusal, same⟩ | ⟨busyTimeout, _, same⟩
      · rw [same]
        exact ih
      · rw [same]
        have held : motive seeded ({ store with busyTimeout } : Store).database := ih
        exact attempt_preserves held false (plan.preserves (requests seeded))
  | prepared _ ih => exact first ih
  | meanwhile _ same ih => exact same ▸ ih

/-- **Every store that can be reached is intact.** -/
theorem Reached.intact {seeded : Prop} (reached : Reached seeded store) :
    store.database.Intact seeded :=
  reached.induction Database.intact_vacant (fun seeded request => request.preserves_intact seeded)
    intact_ensureInitialData

end Store

/-! ## What can be read -/

namespace Database.Holds

open Transaction

variable {handle : Handle} {objects : Objects}

/-- Where there is a client, a client is given. -/
theorem gives_getClient (holds : handle.content.Holds objects) (fit : handle.content.VersionsFit)
    {id : String} (present : (objects ⟨.client, id⟩).isSome) :
    ∃ client, Gives Graph.getClient handle client handle ∧
      objects ⟨.client, client.id⟩ = some ⟨.client, client⟩ := by
  obtain ⟨clients, listed⟩ := holds.exists_list fit (by decide) present
  have members := Handle.mem_list_iff listed
  obtain ⟨held, found, _⟩ := holds.exists_body present
  have member := (members held).2 ⟨id, holds.get fit (by decide) found⟩
  match clients with
  | client :: others =>
      obtain ⟨address, read⟩ := (members client).1 List.mem_cons_self
      have first := holds.object (by decide) read
      obtain rfl : client.id = address := congrArg Ref.id (holds.address first)
      refine ⟨client, ?_, first⟩
      exact gives_bind.2 ⟨client :: others, handle, gives_ask.2 (Prod.ext listed rfl),
        gives_pure.2 ⟨rfl, rfl⟩⟩

/-- **Where there is a client whose main window exists, what it shows is given.** -/
theorem gives_getMainView (holds : handle.content.Holds objects) (fit : handle.content.VersionsFit)
    {client : Client} {window : Window} (given : Gives Graph.getClient handle client handle)
    (shown : objects ⟨.window, client.mainWindowId⟩ = some ⟨.window, window⟩) :
    Gives Graph.getMainView handle ⟨window.id, window.activeTabId⟩ handle := by
  have read := holds.get fit (by decide) shown
  refine gives_bind.2 ⟨client, handle, given, ?_⟩
  exact gives_bind.2 ⟨window, handle, gives_mustGet.2 ⟨read, rfl⟩, gives_pure.2 ⟨rfl, rfl⟩⟩

end Database.Holds

open Transaction in
/-- **Once the first data was set up, what the main window shows is given**, and it exists. -/
theorem Objects.Intact.gives_getMainView {handle : Handle} {objects : Objects}
    {buried : Ref → Prop} {seeded : Prop} (intact : objects.Intact buried seeded)
    (holds : handle.content.Holds objects) (set : seeded) (fit : handle.content.VersionsFit) :
    ∃ client view, Gives Graph.getClient handle client handle ∧
      Gives Graph.getMainView handle view handle ∧
      view.windowId = client.mainWindowId ∧ (objects ⟨.tab, view.activeTabId⟩).isSome := by
  obtain ⟨id, present⟩ := intact.accompanied (.inl set)
  obtain ⟨client, given, found⟩ := holds.gives_getClient fit present
  have named : (objects ⟨.window, client.mainWindowId⟩).isSome :=
    intact.named found _ List.mem_cons_self
  obtain ⟨window, shown, same⟩ := holds.exists_body named
  refine ⟨client, ⟨window.id, window.activeTabId⟩, given, ?_, same, ?_⟩
  · exact holds.gives_getMainView fit given shown
  · exact intact.named shown _ (List.mem_cons_of_mem _ List.mem_cons_self)

/-- **The graph stays whole.** Once the first data was set up, what the main window shows can be
read. -/
theorem graph_stays_whole {seeded : Prop} {store : Store} (reached : store.Reached seeded) :
    ∃ objects : Objects, store.database.Holds objects ∧ objects.Whole store.database.Buried ∧
      ∀ handle : Handle, handle.content = store.database →
        (∀ kind id (body : kind.Body), kind ≠ .block → handle.get kind id = .ok (some body) →
          objects ⟨kind, id⟩ = some ⟨kind, body⟩) ∧
        (seeded → store.database.VersionsFit →
          ∃ client view, Transaction.Gives Graph.getClient handle client handle ∧
            Transaction.Gives Graph.getMainView handle view handle ∧
            view.windowId = client.mainWindowId ∧
            (objects ⟨.tab, view.activeTabId⟩).isSome) := by
  obtain ⟨objects, holds, intact⟩ := reached.intact
  refine ⟨objects, holds, intact.toWhole, fun handle same => ⟨?_, fun set fit => ?_⟩⟩
  · intro kind id body noBlock given
    rw [← same] at holds
    exact holds.object noBlock given
  · rw [← same] at holds fit
    exact intact.gives_getMainView holds set fit

/-- A store in which all drawn ids are the same, after its first data was set up and it was asked
for a second tab. -/
def Store.colliding : Store :=
  ((Service.ensureInitialData .vacant).2.runTracked
    (Plan.ask (.createTab "" "second") .done).work fun _ => .keep).2

/-- The second tab gets the id of the first one and is refused; the failure is caught, and what is
committed shows the first tab. -/
theorem graph_survives_colliding_ids :
    let handle : Handle := .start Store.colliding.database true default 0
    ∃ seeded : Prop, seeded ∧ Store.colliding.Reached seeded ∧
      ∃ objects : Objects, objects.Whole Store.colliding.database.Buried ∧
        ∃ view, Transaction.Gives Graph.getMainView handle view handle ∧
          (objects ⟨.tab, view.activeTabId⟩).isSome := by
  intro handle
  have set : ∃ answer, (Service.ensureInitialData .vacant).1 = .ok answer := ⟨true, by rfl⟩
  have reached : Store.colliding.Reached
      (False ∨ ∃ answer, (Service.ensureInitialData .vacant).1 = .ok answer) :=
    .tracked (.prepared (.empty rfl : Store.vacant.Reached False))
      (Plan.ask (.createTab "" "second") .done) fun _ => .keep
  have fit : Store.colliding.database.VersionsFit := by decide +kernel
  obtain ⟨objects, _, whole, read⟩ := graph_stays_whole reached
  have same : handle.content = Store.colliding.database := Handle.content_start ..
  obtain ⟨_, view, _, given, _, present⟩ := (read handle same).2 (.inr set) fit
  exact ⟨_, .inr set, reached, objects, whole, view, given, present⟩

end ScopedStore
