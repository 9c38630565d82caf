import ScopedStore.Proofs.Logs.Openings

/-!
# The log does not tell what objects say

Take two histories of stores that do the same to objects with the same kinds, ids and versions, and
that end alike step by step; what the objects say may be different throughout. Then the same is
logged (`log_independent_of_payloads`). This holds of everything that logs: the opening of a
store, the scopes of transactions and the dump of the frames of a scope that is discarded, the
reads and writes of objects and the requests, the first data, and the bus with the sinks that look
into the store.

A history is a list of incidents (`Incident`), and a transaction among them is told in steps. The
programs that take the steps may be different ones on both sides, for a program goes on with what
it has read.
-/

set_option autoImplicit false

namespace ScopedStore

/-! ## Incidents -/

/-- Something that happens to a store: a transaction in steps, with or without a record of its
changes, or one that cannot begin, the setting up of the first data, changes that are published by
somebody who has them, and a call of the bus, or something that others do meanwhile. -/
inductive Incident : Type 1
  | transaction (tracked : Bool) (steps : List Step) (ending : Ending)
  | refused (tracked : Bool)
  | prepared
  | published (changes : List Change)
  | called (call : Store.Call)

/-- The calls are the same but for what the objects say. -/
inductive Store.Call.SameShape : Store.Call → Store.Call → Prop
  | openChannel (spelling label : String) :
      SameShape (.openChannel spelling label) (.openChannel spelling label)
  | register (spelling : String) (sink : Sink) :
      SameShape (.register spelling sink) (.register spelling sink)
  | unregister (spelling : String) : SameShape (.unregister spelling) (.unregister spelling)
  | dropReceiver (label : String) : SameShape (.dropReceiver label) (.dropReceiver label)
  | meanwhile {database database' : Database} (databases : database.SameShape database')
      (contention : Contention) (now now' : Int) :
      SameShape (.meanwhile database contention now) (.meanwhile database' contention now')

/-- **The incidents are the same but for what the objects say.** -/
inductive Incident.SameShape : Incident → Incident → Prop
  | transaction (tracked : Bool) {steps steps' : List Step}
      (shapes : List.Forall₂ Step.SameShape steps steps') (ending : Ending) :
      SameShape (.transaction tracked steps ending) (.transaction tracked steps' ending)
  | refused (tracked : Bool) : SameShape (.refused tracked) (.refused tracked)
  | prepared : SameShape .prepared .prepared
  | published {changes changes' : List Change} (numbers : changes.length = changes'.length) :
      SameShape (.published changes) (.published changes')
  | called {call call' : Store.Call} (shape : call.SameShape call') :
      SameShape (.called call) (.called call')

namespace Store

variable {first second last last' : Store}

/-- An incident, the store in front of it and the one behind it. -/
inductive Does : Incident → Store → Store → Prop
  | tracked {store : Store} (free : store.contention ≠ .writing) {α : Type} {work : Work α}
      {ending : α → Ending} {steps : List Step} {value : α} {inside : Handle} {how : Ending}
      (goes : work.Goes (Handle.start store.database true store.ids store.now).openScope steps value
        inside)
      (ends : ending value = how) :
      Does (.transaction true steps how) store (store.runTracked work ending).2
  | untracked {store : Store} (free : store.contention ≠ .writing) {α : Type} {work : Work α}
      {ending : α → Ending} {steps : List Step} {value : α} {inside : Handle} {how : Ending}
      (goes : work.Goes (Handle.start store.database false store.ids store.now).openScope steps value
        inside)
      (ends : ending value = how) :
      Does (.transaction false steps how) store (store.runUntracked work ending).2
  | refusedTracked {store : Store} (busy : store.contention = .writing) {α : Type} (work : Work α)
      (ending : α → Ending) : Does (.refused true) store (store.runTracked work ending).2
  | refusedUntracked {store : Store} (busy : store.contention = .writing) {α : Type} (work : Work α)
      (ending : α → Ending) : Does (.refused false) store (store.runUntracked work ending).2
  | prepared (store : Store) : Does .prepared store (Service.ensureInitialData store).2
  | published (store : Store) (changes : List Change) :
      Does (.published changes) store (store.publish changes)
  | called (store : Store) (call : Call) : Does (.called call) store (store.act call)

/-- A history of a store. -/
inductive Lives : List Incident → Store → Store → Prop
  | nil (store : Store) : Lives [] store store
  | cons {incident : Incident} {incidents : List Incident} {store between last : Store}
      (does : Does incident store between) (rest : Lives incidents between last) :
      Lives (incident :: incidents) store last

namespace SameShape

theorem act (same : first.SameShape second) {call call' : Call} (shape : call.SameShape call') :
    (first.act call).SameShape (second.act call') := by
  cases shape with
  | openChannel spelling label => exact same.withBus (same.bus.registerChannel spelling label)
  | register spelling sink =>
      have knows : first.bus.Knows sink ↔ second.bus.Knows sink := by
        cases sink with
        | channel label number => rw [Bus.Knows, Bus.Knows, same.bus.channels]
        | recorder label | reader label => exact Iff.rfl
      rw [Store.act, Store.act]
      by_cases known : second.bus.Knows sink
      · rw [if_pos (knows.2 known), if_pos known]
        exact same.withBus (same.bus.register spelling sink)
      · rw [if_neg fun also => known (knows.1 also), if_neg known]
        exact same
  | unregister spelling => exact same.withBus (same.bus.unregister spelling)
  | dropReceiver label => exact { same with bus := same.bus.dropReceiver label }
  | meanwhile databases contention now now' =>
      exact { same with database := databases, contention := rfl }

/-- Programs that take the same steps end with handles of the same shape. -/
theorem runs (same : first.SameShape second) (tracked : Bool) {α β : Type} {work : Work α}
    {work' : Work β} {ending : α → Ending} {ending' : β → Ending} {steps steps' : List Step}
    {value : α} {value' : β} {inside inside' : Handle}
    (goes : work.Goes (Handle.start first.database tracked first.ids first.now).openScope steps value
      inside)
    (goes' : work'.Goes (Handle.start second.database tracked second.ids second.now).openScope steps'
      value' inside')
    (shapes : List.Forall₂ Step.SameShape steps steps') (ends : ending value = ending' value') :
    let ran := work.run (Handle.start first.database tracked first.ids first.now).openScope
    let ran' := work'.run (Handle.start second.database tracked second.ids second.now).openScope
    ending ran.1 = ending' ran'.1 ∧ ran.2.SameShape ran'.2 := by
  have lockstep (store : Store) :
      (Handle.start store.database tracked store.ids store.now).openScope.Lockstep :=
    (Handle.Does.opened _).lockstep (Handle.lockstep_start _ _ _ _)
  have last := Handle.Walks.sameShape shapes (goes.walks (lockstep first))
    (goes'.walks (lockstep second)) (lockstep first) (lockstep second) (same.begun tracked)
  dsimp only
  rw [goes.run_eq, goes'.run_eq]
  exact ⟨ends, last⟩

end SameShape

/-- **Incidents of the same shape keep the shape**, and what they log is the same. -/
theorem Does.sameShape {incident incident' : Incident} (does : Does incident first last)
    (does' : Does incident' second last') (shape : incident.SameShape incident')
    (same : first.SameShape second) : last.SameShape last' := by
  cases shape with
  | transaction tracked shapes how =>
      cases does with
      | tracked free goes ends =>
          cases does' with
          | tracked free' goes' ends' =>
              exact same.runTracked (fun _ _ => True) fun _ =>
                ⟨trivial, same.runs true goes goes' shapes (ends.trans ends'.symm)⟩
      | untracked free goes ends =>
          cases does' with
          | untracked free' goes' ends' =>
              exact (same.runUntracked (fun _ _ => True) fun _ =>
                ⟨trivial, same.runs false goes goes' shapes (ends.trans ends'.symm)⟩).2
  | refused tracked =>
      cases does with
      | refusedTracked busy work ending =>
          cases does' with
          | refusedTracked busy' work' ending' =>
              exact same.runTracked (fun _ _ => True) fun free => absurd busy' free
      | refusedUntracked busy work ending =>
          cases does' with
          | refusedUntracked busy' work' ending' =>
              exact (same.runUntracked (fun _ _ => True) fun free => absurd busy' free).2
  | prepared =>
      cases does
      cases does'
      exact same.ensureInitialData
  | published numbers =>
      cases does
      cases does'
      exact same.publish numbers
  | called shape =>
      cases does
      cases does'
      exact same.act shape

/-- **So do whole histories.** -/
theorem Lives.sameShape {incidents incidents' : List Incident}
    (shapes : List.Forall₂ Incident.SameShape incidents incidents')
    (lives : Lives incidents first last) (lives' : Lives incidents' second last')
    (same : first.SameShape second) : last.SameShape last' := by
  induction shapes generalizing first second with
  | nil =>
      cases lives
      cases lives'
      exact same
  | cons shape _ ih =>
      cases lives with
      | cons does rest =>
          cases lives' with
          | cons does' rest' => exact ih rest rest' (does.sameShape does' shape same)

/-- Every transaction is an incident, whatever its program is and whether it begins or not. -/
theorem exists_incident {α : Type} (store : Store) (work : Work α) (ending : α → Ending) :
    (∃ incident, Does incident store (store.runTracked work ending).2) ∧
      ∃ incident, Does incident store (store.runUntracked work ending).2 := by
  by_cases busy : store.contention = .writing
  · exact ⟨⟨_, .refusedTracked busy work ending⟩, _, .refusedUntracked busy work ending⟩
  · have told (tracked : Bool) :=
      work.exists_goes (Handle.start store.database tracked store.ids store.now).openScope
    obtain ⟨steps, goes⟩ := told true
    obtain ⟨steps', goes'⟩ := told false
    exact ⟨⟨_, .tracked busy goes rfl⟩, _, .untracked busy goes' rfl⟩

/-- A request to the service is a transaction of one step. -/
theorem Does.handle {store : Store} (free : store.contention ≠ .writing) (request : Request) :
    let start := (Handle.start store.database true store.ids store.now).openScope
    let answer := (Work.run request.answer.run start).1
    Does (.transaction true [.request request answer] (Transaction.ending answer)) store
      (Service.handle store request).2 := by
  intro start answer
  have goes : Work.Goes (Work.bind request.answer.run Work.done) start [.request request answer]
      answer (Work.run request.answer.run start).2 := .request request (.done _ _)
  rw [Work.bind_done] at goes
  exact .tracked free goes rfl

end Store

/-- **The log does not depend on what objects say.** Two stores that are opened where the databases
have the same shape log the same meanwhile, and are stores of the same shape then or fail in the
same way. Two histories of stores of the same shape log the same if their incidents are the same
but for what the objects say. As the line of an event is a function of the event, this is the same
line by line and at every level. -/
theorem log_independent_of_payloads :
    (∀ (files files' : FileTree) (locks : Locks) (config : Config) (ids : IdSource) (now now' : Int),
      let opening := Store.openIn files locks config ids now
      let opening' := Store.openIn files' locks config ids now'
      Parallel (fun seen seen' => seen.1 = seen'.1 ∧ seen.2.SameShape seen'.2)
          (Store.sighting files locks config) (Store.sighting files' locks config) →
        opening.log = opening'.log ∧ Parallel Store.SameShape opening.result opening'.result) ∧
    (∀ {first second last last' : Store} {incidents incidents' : List Incident},
      first.SameShape second → List.Forall₂ Incident.SameShape incidents incidents' →
        Store.Lives incidents first last → Store.Lives incidents' second last' →
          last.log = last'.log ∧ last.SameShape last') := by
  constructor
  · intro files files' locks config ids now now' opening opening' same
    exact (Store.openIn_sameShape files files' locks config ids now now' same).symm
  · intro first second last last' incidents incidents' same shapes lives lives'
    have after := lives.sameShape shapes lives' same
    exact ⟨after.log, after⟩

/-- The tab in the file, and the workspace that is created and given up again, may have one name or
another. The frames of the scope that is given up are in the log. -/
theorem names_are_not_logged :
    let write (name : String) : Write :=
      .inserted ⟨.tab, { Tab.new "t" name with version := 1 }⟩
    let content (name : String) : Database := (write name).apply 0 .vacant
    let files (name : String) : FileTree :=
      FileTree.empty.withNode ["store"] (.database (content name))
    let opening (name : String) : Store.Opening :=
      Store.openIn (files name) .none (.inFile "/store") default 0
    let store (name : String) : Store := { Store.vacant with database := content name }
    let work (name : String) : Work (Except StoreError Response) :=
      (Request.createWorkspace name).answer.run.bind .done
    let after (name : String) : Store := ((store name).runTracked (work name) fun _ => .discard).2
    (opening "one").log = (opening "two").log ∧ (after "one").log = (after "two").log ∧
      .changeFrame 1 ["workspace:"] ∈ (after "one").log := by
  intro write content files opening store work after
  have contents : (content "one").SameShape (content "two") := by
    have shape : (write "one").SameShape (write "two") := .inserted rfl rfl
    have fits (name : String) : (write name).Fits .vacant := .inserted rfl rfl rfl
    exact shape.apply (.refl .vacant) (fits "one") (fits "two") 0 0
  have seen (name : String)
      (parts : (Store.sighting (files name) .none (.inFile "/store")).toOption.map
        (fun seen => (seen.1, seen.2.content, seen.2.obstacle)) =
          some (some ["store"], content name, none)) :
      Store.sighting (files name) .none (.inFile "/store") =
        .ok (some ["store"], ⟨content name, none⟩) := by
    revert parts
    rcases Store.sighting (files name) .none (.inFile "/store") with cause | ⟨place, found, obstacle⟩
    · intro parts
      cases parts
    · intro parts
      cases parts
      rfl
  have sightings : Parallel (fun seen seen' => seen.1 = seen'.1 ∧ seen.2.SameShape seen'.2)
      (Store.sighting (files "one") .none (.inFile "/store"))
      (Store.sighting (files "two") .none (.inFile "/store")) := by
    rw [seen "one" (by decide +kernel), seen "two" (by decide +kernel)]
    exact .ok ⟨rfl, contents, rfl⟩
  have stores : (store "one").SameShape (store "two") :=
    ⟨rfl, contents, rfl, ⟨rfl, rfl, fun _ => rfl⟩, rfl, rfl⟩
  have free : Contention.free ≠ .writing := by decide
  have lives (name : String) : Store.Lives [_] (store name) (after name) :=
    .cons (.tracked free (.request (.createWorkspace name) (.done _ _)) rfl) (.nil _)
  refine ⟨(log_independent_of_payloads.1 _ _ _ _ _ _ _ sightings).1, ?_, by decide +kernel⟩
  exact (log_independent_of_payloads.2 stores
    (.cons (.transaction true (.cons (.request (.createWorkspace "one" "two") (.ok _ _)) .nil)
      .discard) .nil) (lives "one") (lives "two")).1

end ScopedStore
