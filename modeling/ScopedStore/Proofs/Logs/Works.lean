import ScopedStore.Proofs.Logs.Shapes
import ScopedStore.Proofs.Transactions

/-!
# Work on handles of the same shape

Two works that run on handles of the same shape may differ in what the objects say. A write
succeeds on both handles or on neither (`Handle.SameShape.alongside`), so works that only write
succeed or fail together, and leave handles of the same shape (`Transaction.Alongside`).

What is read may differ, and then one side may fail where the other one goes on: a body cannot be
read, or a block is not listed. So the shape is kept only where both works end alike, with success
or with failures of the same kind (`Transaction.Shaped`). When both fail alike in the end, though
one of them went on longer, that one has to have left no trace until then
(`Transaction.Traceless`); then whatever it saw is not told.
-/

set_option autoImplicit false

namespace ScopedStore

/-! ## How something ends -/

/-- The kinds of failures. -/
inductive ErrorKind
  | notFound
  | duplicateKey
  | versionConflict
  | unknownKind
  | nothingToCommit
  | nothingToRollBack
  | invalidData
  | uninitialized
  | engine
  | file
  | unsupportedVersion
  | malformed
  | config
  deriving DecidableEq, Repr

/-- The kind of a failure of the database. -/
def DatabaseError.kind : DatabaseError → ErrorKind
  | engine _ => .engine
  | file _ => .file
  | unsupportedVersion .. => .unsupportedVersion

/-- The kind of a failure of the repository. -/
def RepositoryError.kind : RepositoryError → ErrorKind
  | database cause => cause.kind
  | notFound _ => .notFound
  | duplicateKey _ => .duplicateKey
  | versionConflict .. => .versionConflict
  | uninitialized .. => .uninitialized
  | invalidData _ => .invalidData

/-- The kind of a failure. -/
def StoreError.kind : StoreError → ErrorKind
  | notFound _ => .notFound
  | duplicateKey _ => .duplicateKey
  | versionConflict .. => .versionConflict
  | unknownKind _ => .unknownKind
  | scope .nothingToCommit => .nothingToCommit
  | scope .nothingToRollBack => .nothingToRollBack
  | repository cause => cause.kind
  | malformed _ => .malformed
  | config _ => .config

/-- Both succeed, or both fail with the same kind of failure. -/
inductive EndsAlike {α β : Type} : Except StoreError α → Except StoreError β → Prop
  | ok (value : α) (other : β) : EndsAlike (.ok value) (.ok other)
  | error {cause other : StoreError} (kinds : cause.kind = other.kind) :
      EndsAlike (.error cause) (.error other)

theorem EndsAlike.symm {α β : Type} {first : Except StoreError α} {second : Except StoreError β}
    (alike : EndsAlike first second) : EndsAlike second first := by
  cases alike with
  | ok value other => exact .ok other value
  | error kinds => exact .error kinds.symm

/-- Both succeed with related values, or both fail. -/
inductive Agree {α β : Type} (related : α → β → Prop) :
    Except StoreError α → Except StoreError β → Prop
  | ok {value : α} {other : β} (values : related value other) : Agree related (.ok value) (.ok other)
  | error (cause other : StoreError) : Agree related (.error cause) (.error other)

/-- Both fail with the same failure, or both succeed with related values. -/
inductive Parallel {ε α β : Type} (related : α → β → Prop) : Except ε α → Except ε β → Prop
  | ok {value : α} {other : β} (values : related value other) :
      Parallel related (.ok value) (.ok other)
  | error (cause : ε) : Parallel related (.error cause) (.error cause)

theorem EndsAlike.agree {α β : Type} {first : Except StoreError α} {second : Except StoreError β}
    (alike : EndsAlike first second) : Agree (fun _ _ => True) first second := by
  cases alike with
  | ok value other => exact .ok trivial
  | error kinds => exact .error _ _

/-- The scopes of works whose answers agree end in the same way. -/
theorem Agree.ending_eq {α β : Type} {related : α → β → Prop} {first : Except StoreError α}
    {second : Except StoreError β} (agree : Agree related first second) :
    Transaction.ending first = Transaction.ending second := by
  cases agree <;> rfl

/-- A body cannot be read. -/
def ErrorKind.Unreadable (kind : ErrorKind) : Prop := kind = .invalidData ∨ kind = .malformed

/-! ## Operations -/

/-- The operations are the same but for what the objects say. -/
inductive Operation.SameShape : {α : Type} → Operation α → Operation α → Prop
  | same {α : Type} (operation : Operation α) : SameShape operation operation
  | insert {kind : Kind} {body other : kind.Body} (ids : kind.id body = kind.id other) :
      SameShape (.insert kind body) (.insert kind other)
  | update {kind : Kind} {body other : kind.Body} (ids : kind.id body = kind.id other)
      (versions : kind.version body = kind.version other) :
      SameShape (.update kind body) (.update kind other)
  | record {change other : Change} (refs : change.ref = other.ref) :
      SameShape (.record change) (.record other)

namespace Handle

variable {α β : Type} {related : α → β → Prop}

/-- The answers agree, and the handles behind them have the same shape. -/
structure Alongside (related : α → β → Prop) (ran : Except StoreError α × Handle)
    (other : Except StoreError β × Handle) : Prop where
  answers : Agree related ran.1 other.1
  same : ran.2.SameShape other.2

variable {first second : Handle}

/-- The operation succeeds with a value exactly if a write fits, which is then done. -/
def Settles (handle : Handle) (done : Except StoreError (α × Handle)) (value : α)
    (write : Write) : Prop :=
  (write.Fits handle.content → done = .ok (value, handle.wrote write)) ∧
    ∀ result, done = .ok result → write.Fits handle.content

theorem settles_insert (handle : Handle) (kind : Kind) (body : kind.Body) :
    handle.Settles (handle.insert kind body) (kind.withVersion body 1)
      (.inserted ⟨kind, kind.withVersion body 1⟩) := by
  refine ⟨insert_of_fits, ?_⟩
  rintro ⟨stored, after⟩ done
  obtain ⟨rfl, fits, _⟩ := insert_eq_ok done
  exact fits

theorem settles_update (handle : Handle) (kind : Kind) (body : kind.Body) :
    let expected := handle.expectedVersion (kind.ref body) (kind.version body)
    handle.Settles (handle.update kind body) (kind.withVersion body (expected + 1))
      (.updated ⟨kind, kind.withVersion body (expected + 1)⟩) := by
  refine ⟨update_of_fits rfl, ?_⟩
  rintro ⟨stored, after⟩ done
  obtain ⟨rfl, fits, _⟩ := update_eq_ok done
  exact fits

namespace SameShape

/-- **Writes of the same shape succeed on both handles or on neither.** -/
theorem alongside (same : first.SameShape second) {done : Except StoreError (α × Handle)}
    {done' : Except StoreError (β × Handle)} {value : α} {value' : β} {write write' : Write}
    (settles : first.Settles done value write) (settles' : second.Settles done' value' write')
    (shape : write.SameShape write') (values : related value value') :
    Alongside related (first.settle done) (second.settle done') := by
  by_cases fits : write.Fits first.content
  · rw [settles.1 fits, settles'.1 (shape.fits same.content fits)]
    exact ⟨.ok values, same.wrote shape fits⟩
  · have unfit : ¬write'.Fits second.content := fun fits' =>
      fits (shape.symm.fits same.content.symm fits')
    cases done with
    | ok result => exact absurd (settles.2 result rfl) fits
    | error cause =>
        cases done' with
        | ok result => exact absurd (settles'.2 result rfl) unfit
        | error other => exact ⟨.error cause other, same⟩

theorem insert (same : first.SameShape second) {kind : Kind} {body other : kind.Body}
    (ids : kind.id body = kind.id other) :
    Alongside (fun stored stored' => kind.id stored = kind.id stored')
      (first.perform (.insert kind body)) (second.perform (.insert kind other)) := by
  refine same.alongside (settles_insert first kind body) (settles_insert second kind other)
    (.inserted ?_ ?_) ?_
  · rw [Record.ref, Record.ref, Kind.ref_withVersion, Kind.ref_withVersion, Kind.ref, ids, Kind.ref]
  · exact (Kind.version_withVersion kind body 1).trans (Kind.version_withVersion kind other 1).symm
  · rw [Kind.id_withVersion, Kind.id_withVersion, ids]

theorem update (same : first.SameShape second) {kind : Kind} {body other : kind.Body}
    (ids : kind.id body = kind.id other) (versions : kind.version body = kind.version other) :
    Alongside (fun _ _ => True)
      (first.perform (.update kind body)) (second.perform (.update kind other)) := by
  have refs : kind.ref body = kind.ref other := by rw [Kind.ref, ids, Kind.ref]
  have expects : first.expectedVersion (kind.ref body) (kind.version body) =
      second.expectedVersion (kind.ref other) (kind.version other) := by
    rw [expectedVersion, expectedVersion, same.undone, refs, versions]
  refine same.alongside (settles_update first kind body) (settles_update second kind other)
    (.updated ?_ ?_) trivial
  · rw [Record.ref, Record.ref, Kind.ref_withVersion, Kind.ref_withVersion, refs]
  · rw [Record.version, Record.version, Kind.version_withVersion, Kind.version_withVersion, expects]

theorem exists_delete (same : first.SameShape second) {kind : Kind} {id : String}
    {result : Bool × Handle} (done : first.delete kind id = .ok result) :
    ∃ result', second.delete kind id = .ok result' ∧ result.2.SameShape result'.2 := by
  obtain ⟨existed, after⟩ := result
  have present := existed_of_delete done
  obtain ⟨_, fits, rfl⟩ | ⟨rfl, rfl⟩ := delete_eq_ok done
  · have shape : Write.SameShape (.deleted ⟨kind, id⟩) (.deleted ⟨kind, id⟩) := .deleted _
    exact ⟨_, delete_of_fits (shape.fits same.content fits), same.wrote shape fits⟩
  · obtain ⟨_, deleted, _⟩ := bind_eq_ok.1 done
    obtain ⟨table, held, _⟩ := Repository.delete_eq_ok (mapError_eq_ok.1 deleted)
    obtain ⟨table', held'⟩ := same.content.exists_table held
    have vacant := Option.not_isSome_iff_eq_none.1 (present ▸ Bool.false_ne_true)
    exact ⟨_, delete_of_vacant held' (same.content.row?_eq_none vacant), same⟩

theorem delete (same : first.SameShape second) (kind : Kind) (id : String) :
    Alongside (fun _ _ => True)
      (first.perform (.delete kind id)) (second.perform (.delete kind id)) := by
  rw [Handle.perform, Handle.perform]
  cases done : first.delete kind id with
  | ok result =>
      obtain ⟨result', done', after⟩ := same.exists_delete done
      rw [done']
      exact ⟨.ok trivial, after⟩
  | error cause =>
      cases done' : second.delete kind id with
      | ok result' =>
          obtain ⟨_, again, _⟩ := same.symm.exists_delete done'
          cases done.symm.trans again
      | error other => exact ⟨.error cause other, same⟩

/-- **An operation on the same addresses and versions keeps the shape**, however it ends. -/
theorem perform (same : first.SameShape second) {operation other : Operation α}
    (shape : operation.SameShape other) :
    (first.perform operation).2.SameShape (second.perform other).2 := by
  cases shape with
  | insert ids => exact (same.insert ids).same
  | update ids versions => exact (same.update ids versions).same
  | record refs => exact same.record refs
  | same operation =>
      cases operation with
      | insert kind body => exact (same.insert rfl).same
      | update kind body => exact (same.update rfl rfl).same
      | delete kind id => exact (same.delete kind id).same
      | record change => exact same.record rfl
      | draw =>
          rw [Handle.perform, Handle.perform, same.ids]
          exact same.withIds _
      | _ => exact same

end SameShape

end Handle

/-! ## Work in step -/

namespace Transaction

variable {α α' β β' : Type} {related : α → α' → Prop} {further : β → β' → Prop}

/-- **On handles of the same shape both succeed or both fail**, and the shape is kept. -/
def Alongside (related : α → α' → Prop) (first : Transaction α) (second : Transaction α') : Prop :=
  ∀ handle other : Handle, handle.SameShape other →
    Handle.Alongside related (Work.run first.run handle) (Work.run second.run other)

namespace Alongside

theorem pure {value : α} {value' : α'} (values : related value value') :
    Alongside related (Pure.pure value) (Pure.pure value') := fun _ _ same =>
  ⟨.ok values, same⟩

theorem bind {first : Transaction α} {second : Transaction α'} {next : α → Transaction β}
    {next' : α' → Transaction β'} (steps : Alongside related first second)
    (later : ∀ value value', related value value' → Alongside further (next value) (next' value')) :
    Alongside further (first >>= next) (second >>= next') := by
  intro handle other same
  rw [run_bind, run_bind]
  obtain ⟨answers, same⟩ := steps handle other same
  generalize (Work.run first.run handle).1 = answer, (Work.run second.run other).1 = answer'
    at answers ⊢
  cases answers with
  | ok values => exact later _ _ values _ _ same
  | error cause other => exact ⟨.error cause other, same⟩

theorem draw : Alongside Eq draw draw := by
  intro handle other same
  have drawn : handle.ids.draw = other.ids.draw := congrArg IdSource.draw same.ids
  exact ⟨.ok (congrArg Prod.fst drawn), { same with ids := congrArg Prod.snd drawn }⟩

theorem insert {kind : Kind} {body other : kind.Body} (ids : kind.id body = kind.id other) :
    Alongside (fun stored stored' => kind.id stored = kind.id stored')
      (ask (.insert kind body)) (ask (.insert kind other)) := fun _ _ same => same.insert ids

/-- A new object is drawn an id for and stored. -/
theorem add (kind : Kind) (build build' : String → kind.Body)
    {next next' : kind.Body → Transaction β} {further : β → β → Prop}
    (ids : ∀ id, kind.id (build id) = kind.id (build' id))
    (later : ∀ stored stored', kind.id stored = kind.id stored' →
      Alongside further (next stored) (next' stored')) :
    Alongside further (Transaction.draw >>= fun id => ask (.insert kind (build id)) >>= next)
      (Transaction.draw >>= fun id => ask (.insert kind (build' id)) >>= next') := by
  refine draw.bind fun id id' same => ?_
  subst same
  exact (insert (ids id)).bind later

theorem update {kind : Kind} {body other : kind.Body} (ids : kind.id body = kind.id other)
    (versions : kind.version body = kind.version other) :
    Alongside (fun _ _ => True) (ask (.update kind body)) (ask (.update kind other)) :=
  fun _ _ same => same.update ids versions

theorem delete (kind : Kind) (id : String) :
    Alongside (fun _ _ => True) (ask (.delete kind id)) (ask (.delete kind id)) :=
  fun _ _ same => same.delete kind id

theorem count (kind : Kind) : Alongside Eq (ask (.count kind)) (ask (.count kind)) := by
  intro handle other same
  have counts : handle.count kind = other.count kind :=
    congrArg Handle.lift (same.content.count_eq kind)
  have ran (handle : Handle) :
      Work.run (ask (.count kind)).run handle = (handle.count kind, handle) := rfl
  rw [ran, ran, counts]
  cases other.count kind with
  | ok rows => exact ⟨.ok rfl, same⟩
  | error cause => exact ⟨.error cause cause, same⟩

end Alongside

/-- Where both end alike the shape is kept. -/
def Shaped (first : Transaction α) (second : Transaction α') : Prop :=
  ∀ handle other : Handle, handle.Lockstep → other.Lockstep → handle.SameShape other →
    EndsAlike (Work.run first.run handle).1 (Work.run second.run other).1 →
      (Work.run first.run handle).2.SameShape (Work.run second.run other).2

theorem Alongside.shaped {first : Transaction α} {second : Transaction α'}
    (steps : Alongside related first second) : Shaped first second :=
  fun handle other _ _ same _ => (steps handle other same).same

theorem Reads.shaped {first : Transaction α} {second : Transaction α'} (reads : first.Reads)
    (reads' : second.Reads) : Shaped first second := by
  intro handle other _ _ same _
  rw [reads, reads']
  exact same

/-- The work fails with one of the kinds only where it has left everything as it was. -/
def Traceless (kinds : ErrorKind → Prop) (work : Transaction α) : Prop :=
  ∀ handle cause, (Work.run work.run handle).1 = .error cause → kinds cause.kind →
    (Work.run work.run handle).2 = handle

/-- The work never fails with one of the kinds. -/
def Spares (kinds : ErrorKind → Prop) (work : Transaction α) : Prop :=
  ∀ handle cause, (Work.run work.run handle).1 = .error cause → ¬kinds cause.kind

/-- What two looks at the objects come to: both see related values, or both fail, or one of them
fails with one of the kinds. -/
inductive Sees (related : α → α' → Prop) (kinds : ErrorKind → Prop) :
    Except StoreError α → Except StoreError α' → Prop
  | both {value : α} {value' : α'} (values : related value value') :
      Sees related kinds (.ok value) (.ok value')
  | neither (cause other : StoreError) : Sees related kinds (.error cause) (.error other)
  | first (value : α) {cause : StoreError} (among : kinds cause.kind) :
      Sees related kinds (.ok value) (.error cause)
  | second {cause : StoreError} (value : α') (among : kinds cause.kind) :
      Sees related kinds (.error cause) (.ok value)

variable {kinds : ErrorKind → Prop}

theorem Traceless.of_alike {work : Transaction α} {handle : Handle} {cause : StoreError}
    (traceless : work.Traceless kinds)
    (alike : EndsAlike (Work.run work.run handle).1 (.error cause : Except StoreError α'))
    (among : kinds cause.kind) : (Work.run work.run handle).2 = handle := by
  cases failed : (Work.run work.run handle).1 with
  | ok value =>
      rw [failed] at alike
      cases alike
  | error other =>
      rw [failed] at alike
      cases alike with
      | error same => exact traceless handle other failed (same ▸ among)

theorem Spares.traceless {work : Transaction α} (spares : work.Spares kinds) :
    work.Traceless kinds := fun handle cause failed among =>
  absurd among (spares handle cause failed)

/-- Work that reads first and then leaves no trace leaves none. -/
theorem Reads.traceless_bind {look : Transaction α} {next : α → Transaction β}
    (reads : look.Reads) (later : ∀ value, (next value).Traceless kinds) :
    (look >>= next).Traceless kinds := by
  intro handle cause failed among
  rw [run_bind, reads] at failed ⊢
  cases seen : (Work.run look.run handle).1 with
  | ok value =>
      rw [seen] at failed
      exact later value handle cause failed among
  | error other => rfl

/-- Work that goes on without such failures leaves no trace if it has left none before. -/
theorem Traceless.bind {work : Transaction α} {next : α → Transaction β}
    (traceless : work.Traceless kinds) (later : ∀ value, (next value).Spares kinds) :
    (work >>= next).Traceless kinds := by
  intro handle cause failed among
  rw [run_bind] at failed ⊢
  cases done : (Work.run work.run handle).1 with
  | ok value =>
      rw [done] at failed
      exact absurd among (later value _ cause failed)
  | error other =>
      rw [done] at failed
      cases failed
      exact traceless handle cause done among

theorem spares_of_answer {work : Transaction α}
    (answers : ∀ handle, ∃ value, (Work.run work.run handle).1 = .ok value) :
    work.Spares kinds := by
  intro handle cause failed
  obtain ⟨value, answer⟩ := answers handle
  cases answer.symm.trans failed

theorem spares_pure (value : α) : (pure value : Transaction α).Spares kinds :=
  spares_of_answer fun _ => ⟨value, rfl⟩

theorem spares_draw : draw.Spares kinds := spares_of_answer fun _ => ⟨_, rfl⟩

theorem Spares.bind {work : Transaction α} {next : α → Transaction β} (spares : work.Spares kinds)
    (later : ∀ value, (next value).Spares kinds) : (work >>= next).Spares kinds := by
  intro handle cause failed
  rw [run_bind] at failed
  cases done : (Work.run work.run handle).1 with
  | ok value =>
      rw [done] at failed
      exact later value _ cause failed
  | error other =>
      rw [done] at failed
      cases failed
      exact spares handle cause done

theorem Traceless.refusing {γ : Type} {refused : Prop} [Decidable refused] {cause : StoreError}
    {next : γ → Transaction α} {work : Transaction α} (traceless : work.Traceless kinds) :
    (if refused then throw cause >>= next else work).Traceless kinds := by
  split
  · exact fun _ _ _ _ => rfl
  · exact traceless

theorem Traceless.allowing {γ : Type} {allowed : Prop} [Decidable allowed] {cause : StoreError}
    {next : γ → Transaction α} {work : Transaction α} (traceless : work.Traceless kinds) :
    (if allowed then work else throw cause >>= next).Traceless kinds := by
  split
  · exact traceless
  · exact fun _ _ _ _ => rfl

theorem traceless_update (kind : Kind) (body : kind.Body) :
    (ask (.update kind body)).Traceless kinds := by
  intro handle cause failed _
  have settled : Work.run (ask (.update kind body)).run handle =
      handle.settle (handle.update kind body) := rfl
  rw [settled] at failed ⊢
  cases done : handle.update kind body with
  | error other => rfl
  | ok result =>
      rw [done] at failed
      cases failed

theorem outcome_ok (answer : Except StoreError α) : outcome answer (.ok ()) = answer := by
  cases answer <;> rfl

namespace Shaped

/-- Two works that look at the objects first. -/
theorem look {look : Transaction α} {look' : Transaction α'} {next : α → Transaction β}
    {next' : α' → Transaction β'} (reads : look.Reads) (reads' : look'.Reads)
    (sees : ∀ {handle other : Handle}, handle.SameShape other →
      Sees related kinds (Work.run look.run handle).1 (Work.run look'.run other).1)
    (rest : ∀ value value', related value value' → Shaped (next value) (next' value'))
    (traceless : ∀ value, (next value).Traceless kinds)
    (traceless' : ∀ value, (next' value).Traceless kinds) :
    Shaped (look >>= next) (look' >>= next') := by
  intro handle other lockstep lockstep' same alike
  have seen := sees same
  rw [run_bind, run_bind, reads, reads'] at alike ⊢
  generalize (Work.run look.run handle).1 = answer, (Work.run look'.run other).1 = answer'
    at seen alike ⊢
  cases seen with
  | both values => exact rest _ _ values handle other lockstep lockstep' same alike
  | neither cause other => exact same
  | first value among =>
      have left : (Work.run (ExceptT.bindCont next (.ok value)) handle).2 = handle :=
        (traceless value).of_alike alike among
      rw [left]
      exact same
  | second value among =>
      have left : (Work.run (ExceptT.bindCont next' (.ok value)) other).2 = other :=
        (traceless' value).of_alike alike.symm among
      rw [left]
      exact same

/-- Two works of which one may be refused where the other one goes on. -/
theorem refusing {γ : Type} {first second : Prop} [Decidable first] [Decidable second]
    {work : Transaction α} {work' : Transaction α'} {cause cause' : StoreError}
    {next : γ → Transaction α} {next' : γ → Transaction α'} (rest : Shaped work work')
    (traceless : work.Traceless (· = cause'.kind)) (traceless' : work'.Traceless (· = cause.kind)) :
    Shaped (if first then throw cause >>= next else work)
      (if second then throw cause' >>= next' else work') := by
  intro handle other lockstep lockstep' same alike
  by_cases refused : first
  · by_cases refused' : second
    · rw [if_pos refused, if_pos refused']
      exact same
    · rw [if_pos refused, if_neg refused'] at alike ⊢
      rw [traceless'.of_alike alike.symm rfl]
      exact same
  · by_cases refused' : second
    · rw [if_neg refused, if_pos refused'] at alike ⊢
      rw [traceless.of_alike alike rfl]
      exact same
    · rw [if_neg refused, if_neg refused'] at alike ⊢
      exact rest handle other lockstep lockstep' same alike

/-- The same where the work is done if something holds. -/
theorem allowing {γ : Type} {first second : Prop} [Decidable first] [Decidable second]
    {work : Transaction α} {work' : Transaction α'} {cause cause' : StoreError}
    {next : γ → Transaction α} {next' : γ → Transaction α'} (rest : Shaped work work')
    (traceless : work.Traceless (· = cause'.kind)) (traceless' : work'.Traceless (· = cause.kind)) :
    Shaped (if first then work else throw cause >>= next)
      (if second then work' else throw cause' >>= next') := by
  have turned : Shaped (if ¬first then throw cause >>= next else work)
    (if ¬second then throw cause' >>= next' else work') := refusing rest traceless traceless'
  rwa [ite_not, ite_not] at turned

theorem map {first : Transaction α} {second : Transaction α'} (shaped : Shaped first second)
    (tell : α → β) (tell' : α' → β') :
    Shaped (first >>= fun value => pure (tell value)) (second >>= fun value => pure (tell' value)) := by
  intro handle other lockstep lockstep' same alike
  have inside := shaped handle other lockstep lockstep' same
  rw [run_bind, run_bind] at alike ⊢
  generalize Work.run first.run handle = answer, Work.run second.run other = answer'
    at inside alike ⊢
  obtain ⟨_ | value, after⟩ := answer
  · obtain ⟨_ | value', after'⟩ := answer'
    · cases alike with
      | error kinds => exact inside (.error kinds)
    · cases alike
  · obtain ⟨_ | value', after'⟩ := answer'
    · cases alike
    · exact inside (.ok value value')

/-- **Works in scopes of their own keep the shape** where they do inside. -/
theorem nested {first : Transaction α} {second : Transaction α'} (shaped : Shaped first second) :
    Shaped first.nested second.nested := by
  intro handle other lockstep lockstep' same alike
  have inside := shaped _ _ ((Handle.Does.opened handle).lockstep lockstep)
    ((Handle.Does.opened other).lockstep lockstep') same.openScope
  have ran : Work.run first.nested.run handle = _ :=
    (lockstep.scope_closes first.run ending fun answer closing => .done (outcome answer closing)).2.1
  have ran' : Work.run second.nested.run other = _ :=
    (lockstep'.scope_closes second.run ending fun answer closing =>
      .done (outcome answer closing)).2.1
  rw [ran, ran'] at alike ⊢
  dsimp only [Work.run] at alike ⊢
  generalize Work.run first.run handle.openScope = answer,
    Work.run second.run other.openScope = answer' at inside alike ⊢
  rw [outcome_ok, outcome_ok] at alike
  rw [alike.agree.ending_eq]
  exact (inside alike).closed _

end Shaped

end Transaction

end ScopedStore
