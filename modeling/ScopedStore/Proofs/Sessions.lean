import ScopedStore.Proofs.Graph.Plans
import ScopedStore.Proofs.Logs.Shapes
import ScopedStore.Proofs.Reopenings
import ScopedStore.Store.Session

/-!
# Sessions with a file

In a session whose store was opened in a file, the file holds what the store holds
(`Session.InFile`). It does so when the store was opened and behind every use of it, whatever locks
others have taken meanwhile (`Session.inFile_openStore`, `Session.InFile.turn`). So when the store
is closed and opened again in the same file, it finds everything that it has left there
(`Session.InFile.reopened`); and as no use of a store changes the version of the schema, it can be
opened again, unless others have changed the version (`Session.InFile.reopened_of_latest`).
-/

set_option autoImplicit false

namespace ScopedStore

namespace Store

variable {property : Database → Prop} {store : Store}

/-- The store itself is used, and others do not change its file. -/
def Use.Own : Use → Prop
  | call (.meanwhile _ _ _) => False
  | _ => True

/-- What is left of setting up the first data is what its transaction leaves. -/
theorem ensureInitialData_database (store : Store) :
    (Service.ensureInitialData store).2.database =
      (store.runUntracked Graph.seed.run Transaction.ending).2.database := by
  rw [Service.ensureInitialData, transactUntracked]
  generalize store.runUntracked Graph.seed.run Transaction.ending = ran
  rcases ran with ⟨refusal | outcome, after⟩
  · rfl
  · dsimp only
    rcases outcome.answer with cause | ⟨_ | client, changes⟩ <;> rfl

/-- **What every write preserves, every use of a store preserves.** -/
theorem use_preserves (writes : ∀ {database : Database} {write : Write} (now : Int),
      write.Fits database → property database → property (write.apply now database))
    (holds : property store.database) {use : Use} (own : use.Own) :
    property (store.use use).database := by
  have untracked {α : Type} (work : Work α) (ending : α → Ending) :
      property (store.runUntracked work ending).2.database := by
    rcases store.runUntracked_cases work ending with ⟨refusal, same⟩ | ⟨busyTimeout, _, left⟩
    · rw [same]
      exact holds
    · rw [left]
      have started : property ({ store with busyTimeout } : Store).database := holds
      exact attempt_preserves started false (Work.preserves_of_writes writes work)
  have withBus (result : Except BusError Bus) : property (store.withBus result).database := by
    cases result <;> exact holds
  cases use with
  | ensureInitialData =>
      rw [Store.use, ensureInitialData_database]
      exact untracked _ _
  | call call =>
      cases call with
      | tracked work ending =>
          rw [Store.use, act, database_runTracked]
          exact attempt_preserves holds true (Work.preserves_of_writes writes work)
      | untracked work ending => exact untracked work ending
      | openChannel spelling label => exact withBus _
      | register spelling sink =>
          rw [Store.use, act]
          split
          · exact withBus _
          · exact holds
      | unregister spelling => exact withBus _
      | dropReceiver label => exact holds
      | meanwhile database contention now => exact own.elim

/-- **No use of a store changes the version of its schema.** -/
theorem userVersion_use {use : Use} (own : use.Own) :
    (store.use use).database.userVersion = store.database.userVersion :=
  @use_preserves (fun database => database.userVersion = store.database.userVersion) store
    (fun now _ same => (Write.userVersion_apply _ now _).trans same) rfl use own

/-- A store whose file holds what it holds sees nothing new there. -/
theorem refresh_of_held {files : FileTree} {names : List String} (place : store.place = some names)
    (held : files.content names = .ok store.database) : store.refresh files = store := by
  have seen : store.place.map files.content = some (.ok store.database) := by
    rw [place, Option.map_some, held]
  rw [refresh, seen]

end Store

namespace Session

variable {session : Session} {config : Config} {path : String} {names : List String}
  {store : Store}

/-- A store is open in the file at a path, the way to the file is open, and the file holds what the
store holds. -/
structure InFile (session : Session) (path : String) (names : List String) (store : Store) :
    Prop where
  opened : session.store = some store
  place : store.place = some names
  ready : session.files.Ready path names
  held : session.files.content names = .ok store.database

/-- **A store that was opened in a file is in it**, and has the newest schema. -/
theorem inFile_openStore (inFile : config.path = some path)
    (opened : (session.openStore config).1 = .ok ()) :
    ∃ names store, (session.openStore config).2.2.InFile path names store ∧
      store.database.userVersion = Migration.latest := by
  cases result :
      (Store.openIn session.files session.locks config session.ids session.now).result with
  | error refusal =>
      rw [openStore] at opened
      dsimp only at opened
      rw [result] at opened
      cases opened
  | ok store =>
      obtain ⟨names, place, ready, held, current⟩ := Store.ready_openIn inFile result
      have after : (session.openStore config).2.2 =
          { session with
            files := (Store.openIn session.files session.locks config session.ids session.now).files
            path := config.path
            store := some store } := by
        rw [openStore]
        dsimp only
        rw [result]
      rw [after]
      exact ⟨names, store, ⟨rfl, place, ready, held⟩, current⟩

/-- The store is used while others have taken some locks. -/
def turn (session : Session) (locks : Locks) (use : Store.Use) : Session :=
  ({ session with locks }.use fun store => ((), store.use use)).2

/-- The store is used again and again, and the locks of others change meanwhile. -/
def turns (session : Session) (uses : List (Locks × Store.Use)) : Session :=
  uses.foldl (fun session (locks, use) => session.turn locks use) session

namespace InFile

/-- **A use leaves the store in its file**, with what it has made of the content. -/
theorem turn (inFile : session.InFile path names store) (locks : Locks) (use : Store.Use) :
    ∃ start : Store, start.database = store.database ∧
      (session.turn locks use).InFile path names (start.use use) := by
  let start : Store :=
    { store with contention := locks.on store.place, ids := session.ids, log := [] }
  have current : ({ session with locks } : Session).current = some start := by
    rw [Session.current, inFile.opened, Option.map_some,
      Store.refresh_of_held inFile.place inFile.held]
  have place : (start.use use).place = some names := (start.settings_use use).2.trans inFile.place
  have after : session.turn locks use =
      { session with
        locks
        store := some (start.use use)
        files := (start.use use).saveTo session.files
        ids := (start.use use).ids } := by
    rw [Session.turn, Session.use, current]
  have files : (session.turn locks use).files =
      session.files.keep (some names) (start.use use).database := by
    rw [after, ← place]
    rfl
  refine ⟨start, rfl, by rw [after], place, ?_, ?_⟩
  · rw [files]
    exact inFile.ready.keep _
  · rw [files]
    exact FileTree.content_keep inFile.ready.names_ne_nil _

/-- **However often a store is used, it stays in its file.** The version of its schema changes only
if others change it. -/
theorem turns (inFile : session.InFile path names store) (uses : List (Locks × Store.Use)) :
    ∃ after, (session.turns uses).InFile path names after ∧
      ((∀ use ∈ uses, use.2.Own) → after.database.userVersion = store.database.userVersion) := by
  induction uses generalizing session store with
  | nil => exact ⟨store, inFile, fun _ => rfl⟩
  | cons first rest ih =>
      obtain ⟨start, same, later⟩ := inFile.turn first.1 first.2
      obtain ⟨after, left, version⟩ := ih later
      refine ⟨after, left, fun own => ?_⟩
      rw [version fun use member => own use (List.mem_cons_of_mem _ member),
        Store.userVersion_use (own first List.mem_cons_self), same]

/-- **What is found when the store is opened again in its file**, whoever uses the file then:
everything that the store has left there. Only a database with an older schema is changed. -/
theorem reopened (inFile : session.InFile path names store) (locks : Locks) {config : Config}
    (same : config.path = some path) :
    let again := ({ session with locks } : Session).openStore config
    ∃ kept, again.2.2.files.content names = .ok kept ∧ store.database.Keeps kept ∧
      (again.2.2.files = session.files ∨
        0 ≤ store.database.userVersion ∧ store.database.userVersion < Migration.latest) ∧
      ∀ other, again.2.2.store = some other → other.place = some names ∧ other.database = kept := by
  obtain ⟨kept, held, keeps, changes, found⟩ :=
    Store.openIn_again locks session.ids session.now inFile.ready inFile.held same
  rw [openStore]
  dsimp only
  generalize Store.openIn session.files locks config session.ids session.now = opening
    at held changes found ⊢
  cases result : opening.result with
  | error refusal => exact ⟨kept, held, keeps, changes, nofun⟩
  | ok store =>
      refine ⟨kept, held, keeps, changes, ?_⟩
      rintro other ⟨⟩
      exact found store result

/-- A store whose schema is up to date can be opened again in its file, and is as it was. -/
theorem reopened_of_latest (inFile : session.InFile path names store) (locks : Locks)
    {config : Config} (same : config.path = some path) (valid : config.validate = .ok ())
    (fits : config.busyTimeout.Fits) (current : store.database.userVersion = Migration.latest) :
    let again := ({ session with locks } : Session).openStore config
    again.1 = .ok () ∧ again.2.2.files = session.files ∧
      ∃ other, again.2.2.InFile path names other ∧ other.database = store.database := by
  obtain ⟨files, other, opened, place, holds⟩ :=
    Store.openIn_again_of_latest locks session.ids session.now inFile.ready inFile.held same valid
      fits current
  rw [openStore]
  dsimp only
  generalize Store.openIn session.files locks config session.ids session.now = opening
    at files opened ⊢
  rw [opened]
  dsimp only
  refine ⟨rfl, files, other, ⟨rfl, place, ?_, ?_⟩, holds⟩
  · rw [files]
    exact inFile.ready
  · rw [files, holds]
    exact inFile.held

end InFile

end Session

/-! ## Nothing is lost -/

/-- What bringing the database up to date that a workbench sees comes to, by the version of its
schema. An older schema is upgraded, and nothing is lost; this is what is seen next, and doing it
again changes nothing. Where something is in the way of a change, the engine refuses it. The newest
schema is left as it is. A newer one is refused, and so is what is no version. Whatever is refused
leaves everything as it was. -/
structure Workbench.Migrates (bench : Workbench) (found : Found) : Prop where
  older : 0 ≤ found.content.userVersion → found.content.userVersion < Migration.latest →
    found.obstacle = none →
      ∃ database log after, bench.migrate = (some (.ok database), log, after) ∧
        database.userVersion = Migration.latest ∧ database.Complete ∧
        found.content.Keeps database ∧
        after.find = (some (.ok { found with content := database }), after) ∧
        after.migrate = (some (.ok database), [], after)
  barred : 0 ≤ found.content.userVersion → found.content.userVersion < Migration.latest →
    ∀ cause, found.obstacle = some cause →
      ∃ after, bench.migrate = (some (.error (.engine cause)), [], after) ∧
        after.find.1 = some (.ok found)
  latest : found.content.userVersion = Migration.latest →
    ∃ after, bench.migrate = (some (.ok found.content), [], after) ∧
      after.find = (some (.ok found), after) ∧
      after.migrate = (some (.ok found.content), [], after)
  newer : Migration.latest < found.content.userVersion →
    ∃ after, bench.migrate = (some (.error (.unsupportedVersion found.content.userVersion.toNat
        Migration.latest)), [], after) ∧
      after.find.1 = some (.ok found)
  negative : found.content.userVersion < 0 →
    ∃ after, bench.migrate = (some (.error (.engine (.versionOutOfRange
        found.content.userVersion))), [], after) ∧
      after.find.1 = some (.ok found)

theorem Workbench.migrates {bench : Workbench} (sound : bench.Sound) {found : Found}
    (shown : bench.find.1 = some (.ok found)) : bench.Migrates found where
  older version older free := by
    have brought := Found.migrate_of_older version older
    rw [free] at brought
    obtain ⟨after, outcome, seen, again⟩ := migrate_of_brought sound shown brought
    exact ⟨_, _, after, outcome, found.content.userVersion_upgraded,
      found.content.complete_upgraded, found.content.keeps_upgraded, seen, again⟩
  barred version older cause barred := by
    have refused := Found.migrate_of_older version older
    rw [barred] at refused
    exact migrate_of_refused sound shown refused
  latest current := migrate_of_brought sound shown (Found.migrate_of_latest current)
  newer newer :=
    migrate_of_refused sound shown (Found.migrate_of_error (Database.migrate_of_newer newer))
  negative negative :=
    migrate_of_refused sound shown (Found.migrate_of_error (Database.migrate_of_negative negative))

/-- **Opening a database and bringing it up to date loses nothing.** Whatever database a workbench
sees, it comes to what the version of its schema says, and every row and every tombstone is as it
was. What was opened by a workbench is a database that the repository takes, with all that was
there before; a new one in memory can always be opened. And take a session in which a store was
opened in a file, and then used in any way while the locks of others come and go: when the store is
opened there again, with any settings and under any locks, the file has everything that the store
had left there, whether it can be opened or not. It can be opened, and nothing is different, if the
settings are fit for it and nobody else has changed the version of the schema. -/
theorem opening_loses_nothing :
    (∀ (bench : Workbench) (found : Found), bench.Reached → bench.find.1 = some (.ok found) →
      bench.Migrates found) ∧
    (∀ bench : Workbench, bench.Reached →
      (∀ name database log after, bench.openUpdated name = (.ok database, log, after) →
        Repository.check database = .ok () ∧
        ∃ link files found, bench.files.openDatabase bench.link name = (.ok link, files) ∧
          (link.find files).1 = .ok found ∧ found.content.Keeps database ∧
          after.find = (some (.ok { found with content := database }), after)) ∧
      (bench.openUpdated none).1 = .ok .vacant) ∧
    ∀ (session : Session) (config : Config) (path : String), config.path = some path →
      (session.openStore config).1 = .ok () → ∀ uses : List (Locks × Store.Use),
        let left := (session.openStore config).2.2.turns uses
        ∃ names store, left.InFile path names store ∧
          ((∀ use ∈ uses, use.2.Own) → store.database.userVersion = Migration.latest) ∧
          ∀ (locks : Locks) (later : Config), later.path = some path →
            let again := ({ left with locks } : Session).openStore later
            (∃ kept, again.2.2.files.content names = .ok kept ∧ store.database.Keeps kept ∧
              (again.2.2.files = left.files ∨ 0 ≤ store.database.userVersion ∧
                store.database.userVersion < Migration.latest) ∧
              ∀ other, again.2.2.store = some other →
                other.place = some names ∧ other.database = kept) ∧
            (store.database.userVersion = Migration.latest → later.validate = .ok () →
              later.busyTimeout.Fits →
                again.1 = .ok () ∧ again.2.2.files = left.files ∧
                ∃ other, again.2.2.InFile path names other ∧
                  other.database = store.database) := by
  refine ⟨fun bench found reached shown => Workbench.migrates reached.sound shown,
    fun bench reached => ⟨fun name database log after opened => ?_, bench.openUpdated_none⟩,
    fun session config path inFile opened uses => ?_⟩
  · obtain ⟨link, files, found, made, shown, keeps, checked, seen⟩ :=
      Workbench.openUpdated_eq_ok reached.sound opened
    exact ⟨checked, link, files, found, made, shown, keeps, seen⟩
  · obtain ⟨names, first, start, current⟩ := Session.inFile_openStore inFile opened
    obtain ⟨store, left, version⟩ := start.turns uses
    refine ⟨names, store, left, fun own => (version own).trans current,
      fun locks later same => ⟨?_, fun latest valid fits =>
        left.reopened_of_latest locks same valid fits latest⟩⟩
    exact left.reopened locks same

/-- A workbench with a database in memory that has a tab, and the schema version of a fresh one. -/
def oldTab : Workbench :=
  ((((⟨.empty, none⟩ : Workbench).openUpdated none).2.2.act (.putRow .tab "t" ⟨1, "x"⟩)).2.act
    (.setVersion 0)).2

/-- Its tab is still there when it was brought up to date; and a store that has set up its first
data in a file is as it was when it is opened there again. -/
theorem old_tab_and_first_data_are_kept :
    (∃ database log after, oldTab.migrate = (some (.ok database), log, after) ∧
      database.userVersion = Migration.latest ∧ database.row? ⟨.tab, "t"⟩ = some ⟨1, "x"⟩ ∧
      after.migrate = (some (.ok database), [], after)) ∧
    let session := Session.start .empty default 0
    let config := Config.inFile "/s.db"
    let left := (session.openStore config).2.2.turns [(.none, .ensureInitialData)]
    let again := ({ left with locks := .none } : Session).openStore config
    again.1 = .ok () ∧ ∃ store other, left.store = some store ∧
      again.2.2.store = some other ∧ other.database = store.database := by
  obtain ⟨migrates, _, sessions⟩ := opening_loses_nothing
  constructor
  · have reached : oldTab.Reached := .act _ (.act _ (.openUpdated none (.blank .empty)))
    obtain ⟨found, shown, version, free, stored⟩ : ∃ found, oldTab.find.1 = some (.ok found) ∧
        found.content.userVersion = 0 ∧ found.obstacle = none ∧
        found.content.row? ⟨.tab, "t"⟩ = some ⟨1, "x"⟩ := ⟨_, rfl, rfl, rfl, rfl⟩
    obtain ⟨database, log, after, brought, latest, _, keeps, _, again⟩ :=
      (migrates oldTab found reached shown).older (by rw [version]) (by rw [version]; decide) free
    exact ⟨database, log, after, brought, latest, (keeps.row?_eq _).trans stored, again⟩
  · intro session config left again
    have opened : (session.openStore config).1 = .ok () := by decide +kernel
    obtain ⟨names, store, kept, current, later⟩ :=
      sessions session config "/s.db" rfl opened [(.none, .ensureInitialData)]
    have own : ∀ use ∈ [(Locks.none, Store.Use.ensureInitialData)], use.2.Own := by
      rintro _ (_ | ⟨_, ⟨⟩⟩)
      trivial
    obtain ⟨done, _, other, found, same⟩ := (later .none config rfl).2 (current own)
      (by decide +kernel) (by unfold Timeout.Fits; decide)
    exact ⟨done, store, other, kept.opened, found.opened, same⟩

end ScopedStore
