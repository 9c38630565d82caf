import ScopedStore.Database.Workbench
import ScopedStore.Proofs.Companions
import ScopedStore.Proofs.Migrations

/-!
# Connections that are brought up to date

A workbench looks at the database to which it has a link. Looking again shows the same
(`Workbench.find_find`), and what was written to a database that nothing keeps from being written is
what is seen next (`Link.find_save`). Both hold for links that were made by opening a database
(`Link.Sound`, `FileTree.sound_openDatabase`).

So bringing a linked database up to date leaves either the database that was seen, or one that has
the newest schema and all that was there before (`Workbench.migrate_of_brought`,
`Workbench.migrate_of_refused`), and doing it again changes nothing. What is opened in this way is
up to date (`Workbench.openUpdated_eq_ok`). The links of all workbenches are sound
(`Workbench.Reached.sound`).
-/

set_option autoImplicit false

namespace ScopedStore

theorem map_eq_ok {ε α β : Type} {result : Except ε α} {change : α → β} {value : β} :
    result.map change = .ok value ↔ ∃ held, result = .ok held ∧ change held = value := by
  cases result with
  | error cause =>
      refine iff_of_false ?_ ?_
      · intro equal
        cases equal
      · rintro ⟨held, equal, _⟩
        cases equal
  | ok held =>
      constructor
      · exact fun equal => ⟨held, rfl, Except.ok.inj equal⟩
      · rintro ⟨_, equal, same⟩
        cases equal
        exact congrArg _ same

/-! ## Links -/

/-- A link that leads to a file leads to one that a file system holds, and not to the root. -/
structure Link.Sound (link : Link) : Prop where
  place : ∀ names, link.home = .file names → names ≠ []
  held : ∀ names, link.home = .file names → link.name.isHeldByNone = false

namespace FileTree

variable {tree : FileTree} {older : Option Link} {path name : String} {names : List String}

theorem resolve_ne_nil (found : tree.resolve path = some names) : names ≠ [] := by
  rw [resolve] at found
  split at found
  · cases found
  · rw [Option.ite_none_right_eq_some, Bool.and_eq_true] at found
    obtain ⟨⟨some, _⟩, same⟩ := found
    cases same
    simpa using some

/-- A new link leads to a file only if a file system holds the database. -/
theorem home?_eq_file {asked : DatabaseName} (leads : tree.home? older asked = some (.file names)) :
    asked.isHeldByNone = false ∧ tree.resolve asked.file = some names := by
  rw [home?, DatabaseName.residence?] at leads
  cases held : asked.isHeldByNone with
  | true =>
      rw [held] at leads
      cases leads
  | false =>
      refine ⟨rfl, ?_⟩
      rw [held, if_neg Bool.false_ne_true] at leads
      split at leads
      · cases leads
      · rename_i path residence
        split at residence
        · split at residence
          · cases residence
          · cases residence
        · cases residence
          rw [Option.map_eq_some_iff] at leads
          obtain ⟨_, found, same⟩ := leads
          cases same
          exact found
      · cases leads
      · split at leads
        · cases leads
        · cases leads

/-- **Links that are made are sound**, if the older one is. -/
theorem sound_link (sound : ∀ link, older = some link → link.Sound) {made : Link × FileTree}
    (linked : tree.link older name = .ok made) : made.1.Sound := by
  rw [link] at linked
  cases asks : DatabaseName.read name with
  | error cause =>
      rw [asks] at linked
      cases linked
  | ok asked =>
      rw [asks] at linked
      dsimp only [bind, Except.bind] at linked
      cases leads : tree.home? older asked with
      | none =>
          rw [leads] at linked
          cases linked
      | some home =>
          rw [leads] at linked
          dsimp only at linked
          split at linked
          · rename_i shared found
            cases linked
            exact sound shared (Option.filter_eq_some_iff.1 found).1
          · split at linked
            · cases linked
            · cases linked
              refine ⟨fun names file => ?_, fun names file => ?_⟩
              · cases file
                exact resolve_ne_nil (home?_eq_file leads).2
              · cases file
                exact (home?_eq_file leads).1

theorem sound_openDatabase (sound : ∀ link, older = some link → link.Sound)
    {asked : Option String} {link : Link} {after : FileTree}
    (opened : tree.openDatabase older asked = (.ok link, after)) : link.Sound := by
  cases asked with
  | none =>
      cases opened
      exact ⟨nofun, nofun⟩
  | some name =>
      rw [openDatabase] at opened
      split at opened
      · cases opened
      · split at opened
        · cases opened
        · rename_i linked
          cases opened
          exact sound_link sound linked

end FileTree

namespace Link

variable {link : Link} {files : FileTree} {names : List String}

/-- Why nothing can be written through a link, when something is in the way of a change. -/
def barrier (link : Link) (obstacle : Option EngineError) : Option EngineError :=
  if link.name.isReadOnly then some .readOnly else obstacle

@[simp] theorem looked_home (link : Link) (found : Except EngineError Found) :
    (link.looked found).home = link.home := by
  cases found <;> rfl

@[simp] theorem looked_name (link : Link) (found : Except EngineError Found) :
    (link.looked found).name = link.name := by
  cases found <;> rfl

@[simp] theorem looked_barrier (link : Link) (found : Except EngineError Found) :
    (link.looked found).barrier = link.barrier := by
  cases found <;> rfl

theorem find_memory {known : Option String} {content : Database}
    (home : link.home = .memory known content) (files : FileTree) :
    link.find files = (.ok ⟨content, link.barrier none⟩, files) := by
  rw [find, home]
  rfl

/-- A link to a file that may change looks at what is there, whatever it has seen before. -/
theorem find_file (home : link.home = .file names) (mutable : link.name.immutable = false)
    (files : FileTree) :
    link.find files =
      let settled := files.settle link.name names
      (settled.1.bind fun _ => (settled.2.content names).map fun content =>
        ⟨content, link.barrier (settled.2.obstacle? names)⟩, settled.2) := by
  rw [find, home, mutable]
  dsimp only
  rcases files.settle link.name names with ⟨cause | done, left⟩ <;> rfl

/-- A link to a file that nobody will ever change remembers what it has seen. -/
theorem find_remembered (home : link.home = .file names) (fixed : link.name.immutable = true)
    {content : Database} (seen : link.seen = some content) (files : FileTree) :
    link.find files = (.ok ⟨content, link.barrier none⟩, files) := by
  rw [find, home, fixed, seen]
  rfl

/-- It looks at nothing beside its file, and removes nothing. -/
theorem find_fixed (home : link.home = .file names) (fixed : link.name.immutable = true)
    (files : FileTree) : ∃ shown : Except EngineError Database,
      link.find files = (shown.map fun content => ⟨content, link.barrier none⟩, files) := by
  cases seen : link.seen with
  | some content => exact ⟨.ok content, find_remembered home fixed seen files⟩
  | none =>
      rw [find, home, fixed, seen]
      dsimp only
      split
      · exact ⟨.error .notDatabase, rfl⟩
      · exact ⟨files.content names, rfl⟩

/-- **Looking again shows the same**, also to a link that remembers what it has seen. -/
theorem find_find (sound : link.Sound) (files : FileTree) :
    link.find (link.find files).2 = link.find files ∧
      (link.looked (link.find files).1).find (link.find files).2 = link.find files := by
  cases home : link.home with
  | memory known content =>
      have looked (found : Except EngineError Found) :
          (link.looked found).home = .memory known content := (link.looked_home found).trans home
      rw [find_memory home files]
      exact ⟨find_memory home files, by rw [find_memory (looked _), looked_barrier]⟩
  | file names =>
      have looked (found : Except EngineError Found) : (link.looked found).home = .file names :=
        (link.looked_home found).trans home
      cases fixed : link.name.immutable with
      | false =>
          have again := files.settle_settle link.name (sound.place names home)
          rw [find_file home fixed files, find_file (looked _) (by rw [looked_name, fixed]),
            find_file home fixed, looked_name, looked_barrier]
          dsimp only
          rw [again]
          exact ⟨rfl, rfl⟩
      | true =>
          -- What was found is remembered; what was not found is looked for again.
          obtain ⟨cause | content, here⟩ := find_fixed home fixed files
          · rw [here]
            exact ⟨here, here⟩
          · rw [here]
            refine ⟨here, ?_⟩
            rw [find_remembered (looked _) (by rw [looked_name, fixed]) rfl, looked_barrier]
            rfl

/-- A file beside which a change can be protected stays one when a database is written to it. -/
theorem obstacle?_withContent (some : names ≠ []) (free : files.obstacle? names = none)
    (content : Database) : (files.withContent names content).obstacle? names = none := by
  have gone : (files.withContent names content).node?
      (FileTree.beside names FileTree.journalEnding) = none := by
    rw [FileTree.withContent, FileTree.node?_withoutNode_beside some, if_pos rfl]
  rw [FileTree.obstacle?] at free ⊢
  rw [gone]
  cases long : FileTree.isBesideTooLong names FileTree.journalEnding with
  | false => rfl
  | true =>
      rw [long] at free
      cases free

/-- A link that may not write is in the way of every change. -/
theorem obstacle_of_find {found : Found} (shown : (link.find files).1 = .ok found) :
    ∃ obstacle, found.obstacle = link.barrier obstacle := by
  rw [find] at shown
  split at shown
  · cases shown
    exact ⟨_, rfl⟩
  · cases shown
    exact ⟨_, rfl⟩
  · split at shown
    · cases shown
    · obtain ⟨content, _, same⟩ := map_eq_ok.1 shown
      cases same
      exact ⟨_, rfl⟩
  · split at shown
    · cases shown
    · obtain ⟨content, _, same⟩ := map_eq_ok.1 shown
      cases same
      exact ⟨_, rfl⟩

/-- Where nothing is in the way the link may write, and others may change its file. -/
theorem mutable_of_free (sound : link.Sound) {found : Found}
    (shown : (link.find files).1 = .ok found) (free : found.obstacle = none) :
    link.name.isReadOnly = false ∧
      ∀ names, link.home = .file names → link.name.immutable = false := by
  obtain ⟨obstacle, same⟩ := obstacle_of_find shown
  rw [free, barrier] at same
  cases write : link.name.isReadOnly with
  | true =>
      rw [write] at same
      cases same
  | false =>
      refine ⟨rfl, fun names home => ?_⟩
      rw [DatabaseName.isReadOnly, sound.held names home] at write
      simpa using (Bool.or_eq_false_iff.1 write).2

theorem barrier_of_writable (write : link.name.isReadOnly = false) (obstacle : Option EngineError) :
    link.barrier obstacle = obstacle := by
  rw [barrier, write]
  rfl

/-- What was written to a file is seen there, where nothing was left to do and nothing is in the
way. -/
theorem find_withContent (home : link.home = .file names) (some : names ≠ [])
    (mutable : link.name.immutable = false) (write : link.name.isReadOnly = false)
    (settled : files.Settled link.name names) (free : files.obstacle? names = none)
    (content : Database) :
    link.find (files.withContent names content) =
      (.ok ⟨content, none⟩, files.withContent names content) := by
  have still : (files.withContent names content).settle link.name names = (.ok (), _) :=
    settled.withContent some content
  rw [find_file home mutable, still]
  dsimp only [Except.bind]
  rw [FileTree.content_withContent some, obstacle?_withContent some free, barrier_of_writable write]
  rfl

/-- **What is written is what is seen next**, where nothing was in the way of a change. -/
theorem find_save (sound : link.Sound) {found : Found} (shown : (link.find files).1 = .ok found)
    (free : found.obstacle = none) (content : Database) :
    let saved := (link.looked (.ok found)).save (link.find files).2 content
    saved.1.find saved.2 = (.ok ⟨content, none⟩, saved.2) ∧ saved.1.seen = some content := by
  obtain ⟨write, mutable⟩ := mutable_of_free sound shown free
  cases home : link.home with
  | memory known held =>
      have saved : (link.looked (.ok found)).save (link.find files).2 content =
          ({ link with home := .memory known content, seen := some content },
            (link.find files).2) := by
        rw [save, looked, home]
        rfl
      rw [saved]
      refine ⟨?_, rfl⟩
      rw [find_memory rfl]
      exact congrArg (fun obstacle => (Except.ok (Found.mk content obstacle), _))
        (barrier_of_writable write none)
  | file names =>
      have some := sound.place names home
      have saved : (link.looked (.ok found)).save (link.find files).2 content =
          ({ link with seen := Option.some content },
            (link.find files).2.withContent names content) := by
        rw [save, looked, home]
        rfl
      rw [saved]
      refine ⟨?_, rfl⟩
      rw [find_file home (mutable names home)] at shown ⊢
      generalize settles : files.settle link.name names = settled at shown ⊢
      obtain ⟨cause | done, left⟩ := settled
      · cases shown
      · obtain ⟨held, _, same⟩ := map_eq_ok.1 shown
        cases same
        have settled := FileTree.settled_of_settle some settles
        have unprotected : left.obstacle? names = none := (barrier_of_writable write _).symm.trans free
        exact find_withContent
          (show ({ link with seen := Option.some content } : Link).home = _ from home) some
          (mutable names home) write settled unprotected content

theorem Sound.looked (sound : link.Sound) (found : Except EngineError Found) :
    (link.looked found).Sound := by
  cases found <;> exact ⟨sound.place, sound.held⟩

theorem Sound.save (sound : link.Sound) (files : FileTree) (content : Database) :
    (link.save files content).1.Sound := by
  rw [Link.save]
  dsimp only
  split
  · exact ⟨nofun, nofun⟩
  · exact ⟨sound.place, sound.held⟩

end Link

/-! ## Workbenches -/

namespace Workbench

variable {bench after : Workbench} {found : Found} {database : Database} {log : List Event}

/-- The link is sound, if there is one. -/
def Sound (bench : Workbench) : Prop := ∀ link, bench.link = some link → link.Sound

theorem find_of_link {link : Link} (linked : bench.link = some link) :
    bench.find = (some (link.find bench.files).1,
      ⟨(link.find bench.files).2, some (link.looked (link.find bench.files).1)⟩) := by
  rw [find, linked]

/-- **Looking again shows the same, and changes nothing more.** -/
theorem find_find (sound : bench.Sound) : bench.find.2.find = bench.find := by
  cases linked : bench.link with
  | none =>
      have nobody : bench.find = (none, bench) := by rw [find, linked]
      rw [nobody, nobody]
  | some link =>
      have again := (Link.find_find (sound link linked) bench.files).2
      have twice (shown : Except EngineError Found) :
          (link.looked shown).looked shown = link.looked shown := by
        cases shown <;> rfl
      rw [find_of_link linked, find_of_link rfl]
      dsimp only
      rw [again, twice]

/-- What bringing a database up to date that was found comes to. -/
theorem migrate_of_find (shown : bench.find = (some (.ok found), after))
    (brought : found.migrate = .ok (database, log)) :
    bench.migrate =
      (some (.ok database), log, if log.isEmpty then after else after.save database) := by
  rw [migrate, shown]
  dsimp only [Except.mapError, Except.bind]
  rw [brought]

/-- A database with the newest schema is left as it is. -/
theorem migrate_of_latest (shown : bench.find = (some (.ok found), after))
    (current : found.content.userVersion = Migration.latest) :
    bench.migrate = (some (.ok found.content), [], after) :=
  migrate_of_find shown (Found.migrate_of_latest current)

/-- What is saved where nothing is in the way is seen next. -/
theorem find_save (sound : bench.Sound) (shown : bench.find.1 = some (.ok found))
    (free : found.obstacle = none) (database : Database) :
    (bench.find.2.save database).find =
      (some (.ok { found with content := database }), bench.find.2.save database) := by
  cases linked : bench.link with
  | none =>
      rw [find, linked] at shown
      cases shown
  | some link =>
      rw [find_of_link linked] at shown ⊢
      have here : (link.find bench.files).1 = .ok found := Option.some.inj shown
      have saved := Link.find_save (sound link linked) here free database
      rw [here, save]
      dsimp only
      generalize (link.looked (.ok found)).save (link.find bench.files).2 database = left at saved ⊢
      obtain ⟨newer, files⟩ := left
      dsimp only at saved ⊢
      have looked : newer.looked (.ok ⟨database, none⟩) = newer := by
        rw [Link.looked, ← saved.2]
      rw [find_of_link rfl]
      dsimp only
      rw [saved.1, looked, free]

/-- **A database that can be brought up to date is seen as it was brought**, and bringing it up to
date again changes nothing. -/
theorem migrate_of_brought (sound : bench.Sound) (shown : bench.find.1 = some (.ok found))
    (brought : found.migrate = .ok (database, log)) :
    ∃ after, bench.migrate = (some (.ok database), log, after) ∧
      after.find = (some (.ok { found with content := database }), after) ∧
      after.migrate = (some (.ok database), [], after) := by
  obtain ⟨current, _, left | ⟨free, _, _, changed⟩⟩ := Found.migrate_eq_ok brought
  · obtain ⟨rfl, rfl⟩ := left
    have again : bench.find.2.find = (some (.ok found), bench.find.2) := by
      rw [find_find sound, ← shown]
    refine ⟨bench.find.2, ?_, again, migrate_of_latest again current⟩
    exact migrate_of_latest (by rw [← shown]) current
  · have again := find_save sound shown free database
    refine ⟨bench.find.2.save database, ?_, again, migrate_of_latest again current⟩
    rw [migrate_of_find (by rw [← shown]) brought, if_neg (by simpa using changed)]

/-- **A database that is refused is seen as it was.** -/
theorem migrate_of_refused (sound : bench.Sound) {shown : Except EngineError Found}
    (seen : bench.find.1 = some shown) {cause : DatabaseError}
    (refused : (shown.mapError .engine).bind Found.migrate = .error cause) :
    ∃ after, bench.migrate = (some (.error cause), [], after) ∧ after.find.1 = some shown := by
  cases linked : bench.link with
  | none =>
      rw [find, linked] at seen
      cases seen
  | some link =>
      have again := (Link.find_find (sound link linked) bench.files).1
      rw [migrate]
      rw [find_of_link linked] at seen ⊢
      have here : (link.find bench.files).1 = shown := Option.some.inj seen
      rw [here]
      dsimp only
      rw [refused]
      refine ⟨_, rfl, ?_⟩
      rw [find_of_link (show ({ bench with files := (link.find bench.files).2 } : Workbench).link =
        _ from linked)]
      dsimp only
      rw [again, here]

/-! ## Opening -/

/-- What was opened was linked to and brought up to date. -/
theorem migrate_of_opened {name : Option String}
    (opened : bench.openUpdated name = (.ok database, log, after)) :
    ∃ link files found told, bench.files.openDatabase bench.link name = (.ok link, files) ∧
      (link.find files).1 = .ok found ∧ found.migrate = .ok (database, told) ∧
      (⟨files, some link⟩ : Workbench).migrate = (some (.ok database), told, after) := by
  rw [openUpdated] at opened
  dsimp only at opened
  generalize made : bench.files.openDatabase bench.link name = result at opened
  obtain ⟨cause | link, files⟩ := result
  · cases opened
  · dsimp only at opened
    cases shown : (link.find files).1 with
    | error cause =>
        rw [shown] at opened
        cases opened
    | ok found =>
        rw [shown] at opened
        dsimp only [Except.mapError, Database.bootstrap, Except.bind] at opened
        cases brought : found.migrate with
        | error cause =>
            rw [brought] at opened
            cases opened
        | ok outcome =>
            obtain ⟨updated, told⟩ := outcome
            rw [brought] at opened
            obtain ⟨rfl, -, rfl⟩ := by simpa only [Prod.mk.injEq, Except.ok.injEq] using opened
            refine ⟨link, files, found, told, rfl, shown, brought, ?_⟩
            rw [migrate_of_find (by rw [find_of_link rfl, shown]) brought,
              Found.isEmpty_of_migrate brought]
            by_cases same : found.content = updated
            · simp [Link.looked, Except.toOption, same]
            · simp [Link.looked, Link.save, save, Except.toOption, same]

/-- **What was opened has the newest schema and all that was there before**, and is seen so. -/
theorem openUpdated_eq_ok (sound : bench.Sound) {name : Option String}
    (opened : bench.openUpdated name = (.ok database, log, after)) :
    ∃ link files found, bench.files.openDatabase bench.link name = (.ok link, files) ∧
      (link.find files).1 = .ok found ∧ found.content.Keeps database ∧
      Repository.check database = .ok () ∧
      after.find = (some (.ok { found with content := database }), after) := by
  obtain ⟨link, files, found, told, made, shown, brought, done⟩ := migrate_of_opened opened
  obtain ⟨current, keeps, _⟩ := Found.migrate_eq_ok brought
  have linked : Sound ⟨files, some link⟩ := by
    rintro _ ⟨⟩
    exact FileTree.sound_openDatabase sound made
  obtain ⟨left, same, seen, _⟩ :=
    migrate_of_brought linked (by rw [find_of_link rfl, shown]) brought
  cases done.symm.trans same
  exact ⟨link, files, found, made, shown, keeps, Database.check_eq_ok_iff.2 current, seen⟩

/-- A database in memory can always be opened, and is set up and holds nothing. -/
theorem openUpdated_none (bench : Workbench) : (bench.openUpdated none).1 = .ok .vacant := by
  rw [openUpdated]
  rfl

/-! ## Workbenches that can be reached -/

theorem sound_find (sound : bench.Sound) : bench.find.2.Sound := by
  cases linked : bench.link with
  | none =>
      rw [find, linked]
      exact sound
  | some link =>
      rw [find_of_link linked]
      rintro _ ⟨⟩
      exact (sound link linked).looked _

theorem sound_save (sound : bench.Sound) (content : Database) : (bench.save content).Sound := by
  rw [save]
  split
  · exact sound
  · rename_i link linked
    rintro _ ⟨⟩
    exact (sound link linked).save _ _

theorem sound_openAsIs (sound : bench.Sound) {name : String}
    (opened : bench.openAsIs name = .ok after) : after.Sound := by
  obtain ⟨made, linked, rfl⟩ := map_eq_ok.1 opened
  rintro _ ⟨⟩
  exact FileTree.sound_link sound linked

theorem sound_openUpdated (sound : bench.Sound) (name : Option String) :
    (bench.openUpdated name).2.2.Sound := by
  rw [openUpdated]
  dsimp only
  generalize made : bench.files.openDatabase bench.link name = result
  obtain ⟨cause | link, files⟩ := result
  · exact sound
  · have linked := FileTree.sound_openDatabase sound made
    dsimp only
    split
    · exact sound
    · rename_i database log _
      have fresh : Sound ⟨(link.find files).2, some { link with seen := some database }⟩ := by
        rintro _ ⟨⟩
        exact ⟨linked.place, linked.held⟩
      dsimp only
      split
      · exact fresh
      · exact sound_save fresh database

theorem sound_migrate (sound : bench.Sound) : bench.migrate.2.2.Sound := by
  have looked := sound_find sound
  rw [migrate]
  generalize bench.find = result at looked
  obtain ⟨_ | shown, left⟩ := result
  · exact looked
  · dsimp only
    split
    · exact sound
    · dsimp only
      split
      · exact looked
      · exact sound_save looked _

theorem sound_act (sound : bench.Sound) (action : DirectAction) : (bench.act action).2.Sound := by
  rw [act]
  split
  · exact sound
  · exact sound
  · rename_i link linked _
    have linkSound := sound link linked
    have looked : Sound ⟨(link.find bench.files).2,
        some (if action.table?.isSome then link.looked (link.find bench.files).1 else link)⟩ := by
      rintro _ ⟨⟩
      split
      · exact linkSound.looked _
      · exact linkSound
    dsimp only
    split
    · exact looked
    · exact looked
    · exact sound_save looked _

/-- Workbenches come about by opening databases, by looking at them, by working on them and by
bringing them up to date, while others do anything to the files. -/
inductive Reached : Workbench → Prop
  | blank (files : FileTree) : Reached ⟨files, none⟩
  | openAsIs {bench after : Workbench} {name : String} :
      Reached bench → bench.openAsIs name = .ok after → Reached after
  | openUpdated {bench : Workbench} (name : Option String) :
      Reached bench → Reached (bench.openUpdated name).2.2
  | find {bench : Workbench} : Reached bench → Reached bench.find.2
  | migrate {bench : Workbench} : Reached bench → Reached bench.migrate.2.2
  | act {bench : Workbench} (action : DirectAction) : Reached bench → Reached (bench.act action).2
  | meanwhile {bench : Workbench} (files : FileTree) : Reached bench → Reached { bench with files }

/-- **The links of all workbenches are sound.** -/
theorem Reached.sound (reached : bench.Reached) : bench.Sound := by
  induction reached with
  | blank files =>
      rintro link linked
      cases linked
  | openAsIs _ opened ih => exact sound_openAsIs ih opened
  | openUpdated name _ ih => exact sound_openUpdated ih name
  | find _ ih => exact sound_find ih
  | migrate _ ih => exact sound_migrate ih
  | act action _ ih => exact sound_act ih action
  | meanwhile files _ ih => exact ih

end Workbench

end ScopedStore
