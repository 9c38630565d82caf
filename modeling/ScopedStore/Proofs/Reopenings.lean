import ScopedStore.Proofs.AcceptedTimeouts
import ScopedStore.Proofs.Connections

/-!
# Stores that are opened again

A store that could be opened in a file leaves the way to the file open (`FileTree.Ready`): the
directories around it stand, the engine finds its place, a file is there, and nothing beside it is
left to be done. Writing the database of the store to the file leaves it so. When a store is opened
there again, nothing is made and nothing is removed, and what is found is what was written. So it
comes to bringing that up to date (`Store.openIn_again`).
-/

set_option autoImplicit false

namespace ScopedStore

namespace DatabaseName

variable {path : String} {asked : DatabaseName}

/-- The name of a database that begins with a slash is the path of its file. -/
theorem read_of_absolute (absolute : Path.isAbsolute path = true) (asks : read path = .ok asked) :
    asked = .ofPath path := by
  rw [read] at asks
  split at asks
  · cases asks
  · rename_i characters
    rw [Path.isAbsolute, characters] at absolute
    cases absolute
  · cases asks
    rfl

/-- The file of an absolute path is held by a file system. -/
theorem residence?_of_absolute (absolute : Path.isAbsolute path = true) :
    (ofPath path).residence? = some (.file path) := by
  have held : (ofPath path).isHeldByNone = false := by
    rw [isHeldByNone, ofPath]
    dsimp only
    have full : (path == "") = false := by
      rw [beq_eq_false_iff_ne]
      rintro rfl
      cases absolute
    have named : (path == memoryName) = false := by
      rw [beq_eq_false_iff_ne]
      rintro rfl
      revert absolute
      decide
    rw [full, named]
    rfl
  rw [residence?, held]
  rfl

end DatabaseName

namespace FileTree

variable {tree after : FileTree} {path : String} {names : List String} {database : Database}

/-- The link to the file of a path, at the place of some names. -/
def linkTo (path : String) (names : List String) : Link :=
  ⟨.ofPath path, .file names, none, none⟩

/-- What such a link finds. -/
theorem find_linkTo (tree : FileTree) (path : String) (names : List String) :
    (linkTo path names).find tree =
      let settled := tree.settle (.ofPath path) names
      (settled.1.bind fun _ => (settled.2.content names).map fun content =>
        ⟨content, settled.2.obstacle? names⟩, settled.2) :=
  Link.find_file rfl rfl tree

/-- Linking to a file at an absolute path. -/
theorem link_of_absolute (absolute : Path.isAbsolute path = true)
    (asks : DatabaseName.read path = .ok (.ofPath path)) :
    tree.link none path =
      match tree.resolve path with
      | none => .error (.cannotOpen path)
      | some names => (tree.openHome path (linkTo path names)).map fun tree =>
          (linkTo path names, tree) := by
  rw [link, asks]
  dsimp only [bind, Except.bind]
  rw [home?, DatabaseName.residence?_of_absolute absolute]
  dsimp only
  cases tree.resolve path with
  | none => rfl
  | some names =>
      have unshared : commonName? (.ofPath path) (.file names) = none := rfl
      dsimp only [Option.map, Option.filter]
      rw [unshared, linkTo]
      cases tree.openHome path ⟨.ofPath path, .file names, none, none⟩ <;> rfl

/-- The way to the file of a path is open: the directories around it stand, the engine finds its
place, a file is there, no directory stands where its journal would be, and nothing beside it is
left to be done. -/
structure Ready (tree : FileTree) (path : String) (names : List String) : Prop where
  absolute : Path.isAbsolute path = true
  asks : DatabaseName.read path = .ok (.ofPath path)
  around : ∀ directory, Path.parent? path = some directory → tree.isDirectory directory = true
  place : tree.resolve path = some names
  file : ∃ node, tree.node? names = some node ∧ node ≠ .directory
  journal : tree.node? (beside names journalEnding) ≠ some .directory
  settled : tree.Settled (.ofPath path) names

namespace Ready

theorem names_ne_nil (ready : tree.Ready path names) : names ≠ [] := resolve_ne_nil ready.place

theorem parent_ne_empty (absolute : Path.isAbsolute path = true) {directory : String}
    (parent : Path.parent? path = some directory) : directory ≠ "" := by
  rintro rfl
  cases (Path.components_parent absolute parent).1

/-- **Opening the file again makes nothing and removes nothing.** -/
theorem openDatabase (ready : tree.Ready path names) :
    tree.openDatabase none (some path) = (.ok (linkTo path names), tree) := by
  have made : (Path.parent? path).elim (.ok (), tree) tree.makeDirectories = (.ok (), tree) := by
    cases parent : Path.parent? path with
    | none => rfl
    | some directory =>
        exact makeDirectories_of_isDirectory (parent_ne_empty ready.absolute parent)
          (ready.around directory parent)
  have home : tree.openHome path (linkTo path names) = .ok tree := by
    obtain ⟨node, found, file⟩ := ready.file
    rw [openHome, linkTo]
    dsimp only
    rw [found]
    cases node with
    | directory => exact absurd rfl file
    | text | database => rfl
  rw [FileTree.openDatabase, made]
  dsimp only
  rw [link_of_absolute ready.absolute ready.asks, ready.place]
  dsimp only
  rw [home]
  rfl

/-- What is found there is what the file holds. -/
theorem find (ready : tree.Ready path names) (held : tree.content names = .ok database) :
    (linkTo path names).find tree = (.ok ⟨database, tree.obstacle? names⟩, tree) := by
  rw [find_linkTo, show tree.settle (.ofPath path) names = (.ok (), tree) from ready.settled]
  dsimp only [Except.bind]
  rw [held]
  rfl

/-- **The way stays open when a database is written to the file.** -/
theorem withContent (ready : tree.Ready path names) (content : Database) :
    (tree.withContent names content).Ready path names := by
  have some := ready.names_ne_nil
  obtain ⟨node, found, file⟩ := ready.file
  have keeps := keepsDirectories_withContent some
    (by rw [found]; exact fun same => file (Option.some.inj same)) ready.journal content
  have isFile : FileNode.database content ≠ .directory := by
    intro same
    cases same
  refine ⟨ready.absolute, ready.asks, fun directory parent =>
    isDirectory_of_keeps keeps (ready.around directory parent), ?_,
    ⟨.database content, ?_, isFile⟩, ?_, ready.settled.withContent some content⟩
  · rw [resolve_of_keeps keeps ready.absolute ready.around, ready.place]
  · rw [FileTree.withContent, node?_withoutNode_self some (by decide), node?_withNode_self some]
  · rw [FileTree.withContent, node?_withoutNode_beside some, if_pos rfl]
    exact (Option.some_ne_none _).symm

theorem keep (ready : tree.Ready path names) (content : Database) :
    (tree.keep (some names) content).Ready path names := by
  rw [FileTree.keep]
  split
  · split
    · exact ready
    · exact ready.withContent content
  · exact ready.withContent content

end Ready

/-! ## Files of stores -/

/-- What was made or found on the way to a file at an absolute path. -/
theorem openDatabase_eq_ok (absolute : Path.isAbsolute path = true) {link : Link}
    (opened : tree.openDatabase none (some path) = (.ok link, after)) :
    ∃ (names : List String) (made : FileTree), link = linkTo path names ∧
      DatabaseName.read path = .ok (.ofPath path) ∧
      (∀ directory, Path.parent? path = some directory → made.isDirectory directory = true) ∧
      made.resolve path = some names ∧ made.openHome path link = .ok after := by
  rw [openDatabase] at opened
  split at opened
  · cases opened
  · rename_i made came
    split at opened
    · cases opened
    · rename_i linked
      cases opened
      cases asks : DatabaseName.read path with
      | error cause =>
          rw [FileTree.link, asks] at linked
          cases linked
      | ok asked =>
          obtain rfl := DatabaseName.read_of_absolute absolute asks
          rw [link_of_absolute absolute asks] at linked
          cases found : made.resolve path with
          | none =>
              rw [found] at linked
              cases linked
          | some names =>
              rw [found] at linked
              obtain ⟨reached, home, same⟩ := map_eq_ok.1 linked
              cases same
              refine ⟨names, made, rfl, rfl, fun directory parent => ?_, found, home⟩
              rw [parent] at came
              exact isDirectory_of_makeDirectories (Ready.parent_ne_empty absolute parent) came

/-- Opening a file makes it if it is not there, and directories stay. -/
theorem openHome_eq_ok (some : names ≠ [])
    (opened : tree.openHome path (linkTo path names) = .ok after) :
    tree.KeepsDirectories after ∧ ∃ node, after.node? names = Option.some node ∧
      node ≠ .directory := by
  rw [openHome, linkTo] at opened
  dsimp only at opened
  cases found : tree.node? names with
  | none =>
      rw [found] at opened
      split at opened
      · contradiction
      · contradiction
      · contradiction
      · cases opened
        exact ⟨keepsDirectories_withNode some _ (by rw [found]; nofun), _,
          node?_withNode_self some _, nofun⟩
      · cases opened
  | some node =>
      rw [found] at opened
      cases node with
      | directory => cases opened
      | text content =>
          cases opened
          exact ⟨.refl _, _, found, nofun⟩
      | database content =>
          cases opened
          exact ⟨.refl _, _, found, nofun⟩

end FileTree

namespace Store

variable {files : FileTree} {locks : Locks} {config : Config} {ids : IdSource} {now : Int}
  {path : String} {names : List String} {database : Database} {store : Store}

/-- The path of accepted settings is absolute. -/
theorem isAbsolute_of_valid (inFile : config.path = some path) (valid : config.validate = .ok ()) :
    Path.isAbsolute path = true := by
  rw [Config.validate, inFile] at valid
  split at valid
  · cases valid
  · split at valid
    · cases valid
    · by_contra relative
      dsimp only at valid
      rw [if_neg relative] at valid
      cases valid

/-- What the opening of a store gives when a database was brought up to date at a place: it is
written there, and it is what the store has, if the engine has room for the waiting time. -/
structure Opening.Gives (opening : Opening) (config : Config) (place : Option (List String))
    (database : Database) (files : FileTree) : Prop where
  files : opening.files = files.keep place database
  store : ∀ store, opening.result = .ok store →
    store.config = config ∧ store.place = place ∧ store.database = database
  opens : config.busyTimeout.Fits → ∃ store, opening.result = .ok store

variable {link : Link} {made left : FileTree} {found : Found}

/-- A store is not opened if the database that is found is refused, and nothing is written. -/
theorem openIn_of_refused (ids : IdSource) (now : Int) (valid : config.validate = .ok ())
    (came : files.openDatabase none config.path = (.ok link, made))
    (shown : link.findUnder locks made = (.ok found, left)) {cause : DatabaseError}
    (refused : found.migrate = .error cause) :
    let opening := openIn files locks config ids now
    opening.result = .error (.failure (.ofDatabase cause)) ∧ opening.files = left := by
  rw [openIn, valid]
  dsimp only
  rw [came]
  dsimp only
  rw [shown]
  dsimp only [Except.mapError, Database.bootstrap, Except.bind]
  rw [refused]
  exact ⟨rfl, rfl⟩

/-- **A store is opened with the database that was brought up to date.** -/
theorem openIn_of_brought (ids : IdSource) (now : Int) (valid : config.validate = .ok ())
    (came : files.openDatabase none config.path = (.ok link, made))
    (shown : link.findUnder locks made = (.ok found, left)) {log : List Event}
    (brought : found.migrate = .ok (database, log)) :
    (openIn files locks config ids now).Gives config link.place? database left := by
  rw [openIn, valid]
  dsimp only
  rw [came]
  dsimp only
  rw [shown]
  dsimp only [Except.mapError, Database.bootstrap, Except.bind]
  rw [brought]
  dsimp only
  cases engine : engineTimeout config.busyTimeout with
  | error refusal =>
      refine ⟨rfl, fun store opened => ?_, fun fits => ?_⟩
      · cases opened
      · cases engine.symm.trans (engineTimeout_of_fits fits)
  | ok busyTimeout =>
      refine ⟨rfl, fun store opened => ?_, fun _ => ⟨_, rfl⟩⟩
      cases opened
      exact ⟨rfl, rfl, rfl⟩

/-- What has to be there for a store to be opened. -/
theorem openIn_eq_ok (opened : (openIn files locks config ids now).result = .ok store) :
    config.validate = .ok () ∧ ∃ link made found left brought,
      files.openDatabase none config.path = (.ok link, made) ∧
      link.findUnder locks made = (.ok found, left) ∧ found.migrate = .ok brought := by
  rw [openIn] at opened
  cases valid : config.validate with
  | error cause =>
      rw [valid] at opened
      cases opened
  | ok done =>
      refine ⟨rfl, ?_⟩
      rw [valid] at opened
      dsimp only at opened
      generalize files.openDatabase none config.path = result at opened ⊢
      obtain ⟨cause | link, made⟩ := result
      · cases opened
      · dsimp only at opened
        generalize shown : link.findUnder locks made = result at opened
        obtain ⟨cause | found, left⟩ := result
        · cases opened
        · dsimp only [Except.mapError, Database.bootstrap, Except.bind] at opened
          cases brought : found.migrate with
          | error cause =>
              rw [brought] at opened
              cases opened
          | ok outcome => exact ⟨link, made, found, left, outcome, rfl, shown, brought⟩

/-- What is in the way of a change of a file: the locks of others, or something beside it. -/
def barrier (files : FileTree) (locks : Locks) (names : List String) : Option EngineError :=
  if locks.on (some names) = .free then files.obstacle? names else some .locked

/-- What a link to a file finds under the locks of others. -/
theorem findUnder_linkTo {left : FileTree} {found : Found}
    (shown : (FileTree.linkTo path names).findUnder locks files = (.ok found, left)) :
    files.settle (.ofPath path) names = (.ok (), left) ∧
      left.content names = .ok found.content ∧ found.obstacle = barrier left locks names := by
  rw [Link.findUnder, FileTree.find_linkTo] at shown
  dsimp only at shown
  generalize files.settle (.ofPath path) names = settled at shown ⊢
  obtain ⟨cause | done, reached⟩ := settled
  · cases shown
  · obtain ⟨result, same⟩ := Prod.mk.inj shown
    subst same
    obtain ⟨seen, held, rfl⟩ := map_eq_ok.1 result
    obtain ⟨content, there, rfl⟩ := map_eq_ok.1 held
    refine ⟨rfl, ?_, ?_⟩
    · rw [there]
      split <;> rfl
    · rw [barrier]
      by_cases free : locks.on (some names) = .free
      · rw [if_pos free]
        exact congrArg Found.obstacle (if_pos free)
      · rw [if_neg free]
        exact congrArg Found.obstacle (if_neg free)

/-- A blank file is a fresh database. -/
theorem content_of_blank (blank : files.isBlank names = true) :
    files.content names = .ok .fresh := by
  cases there : files.node? names with
  | none =>
      rw [FileTree.isBlank, there] at blank
      cases blank
  | some node =>
      cases node with
      | text content =>
          rw [FileTree.content, there]
          exact if_pos blank
      | directory | database =>
          rw [FileTree.isBlank, there] at blank
          cases blank

/-- A directory in the place of the journal is in the way: of a file that is not blank it keeps the
engine away, and a blank file has to be changed. -/
theorem journal_of_brought {left : FileTree} {found : Found} {brought : Database × List Event}
    (some : names ≠ []) (settled : left.Settled (.ofPath path) names)
    (held : left.content names = .ok found.content)
    (obstacle : found.obstacle = barrier left locks names)
    (migrated : found.migrate = .ok brought) :
    left.node? (FileTree.beside names FileTree.journalEnding) ≠ .some .directory := by
  intro directory
  obtain ⟨current, _, ⟨same, _⟩ | ⟨free, _⟩⟩ := Found.migrate_eq_ok migrated
  · have judged := (settled.verdicts rfl some).2.1
    rw [directory] at judged
    cases blank : left.isBlank names with
    | false =>
        rw [blank] at judged
        cases judged
    | true =>
        rw [content_of_blank blank] at held
        rw [same, ← Except.ok.inj held] at current
        cases current
  · rw [obstacle, barrier] at free
    split at free
    · rw [FileTree.obstacle?, directory] at free
      split at free
      · cases free
      · cases free
      · contradiction
    · cases free

/-- Where a database that was found in a file could be brought up to date, the way to the file is
open. -/
theorem ready_of_brought (absolute : Path.isAbsolute path = true)
    (came : files.openDatabase none (some path) = (.ok link, made))
    (shown : link.findUnder locks made = (.ok found, left)) {brought : Database × List Event}
    (migrated : found.migrate = .ok brought) :
    ∃ names, link.place? = some names ∧ left.Ready path names := by
  obtain ⟨names, around, rfl, asks, stand, place, home⟩ :=
    FileTree.openDatabase_eq_ok absolute came
  have some := FileTree.resolve_ne_nil place
  obtain ⟨madeKeeps, node, there, file⟩ := FileTree.openHome_eq_ok some home
  obtain ⟨settles, held, obstacle⟩ := findUnder_linkTo shown
  have settled := FileTree.settled_of_settle some settles
  have keeps : around.KeepsDirectories left := by
    have later := made.keepsDirectories_settle (.ofPath path) some
    rw [settles] at later
    exact madeKeeps.trans later
  have thereStill : left.node? names = node := by
    have same := made.node?_settle (.ofPath path) some
    rw [settles] at same
    exact same.trans there
  have placeStill : left.resolve path = names := by
    rw [FileTree.resolve_of_keeps keeps absolute stand, place]
  exact ⟨names, rfl, absolute, asks,
    fun directory parent => FileTree.isDirectory_of_keeps keeps (stand directory parent),
    placeStill, ⟨node, thereStill, file⟩, journal_of_brought some settled held obstacle migrated,
    settled⟩

/-- **A store that was opened in a file has left the way to it open**, and what it holds is in the
file and has the newest schema. -/
theorem ready_openIn (inFile : config.path = some path)
    (opened : (openIn files locks config ids now).result = .ok store) :
    let opening := openIn files locks config ids now
    ∃ names, store.place = some names ∧ opening.files.Ready path names ∧
      opening.files.content names = .ok store.database ∧
      store.database.userVersion = Migration.latest := by
  obtain ⟨valid, link, made, found, left, ⟨database, log⟩, came, shown, brought⟩ :=
    openIn_eq_ok opened
  have gives := openIn_of_brought ids now valid came shown brought
  rw [inFile] at came
  obtain ⟨names, place, ready⟩ :=
    ready_of_brought (isAbsolute_of_valid inFile valid) came shown brought
  obtain ⟨_, there, holds⟩ := gives.store store opened
  dsimp only
  rw [gives.files, place, holds]
  exact ⟨names, there.trans place, ready.keep database,
    FileTree.content_keep ready.names_ne_nil database, (Found.migrate_eq_ok brought).1⟩

/-! ## Opening again -/

/-- What the engine finds when the way to a file is open, under the locks of others. -/
theorem findUnder_of_ready (locks : Locks) (ready : files.Ready path names)
    (held : files.content names = .ok database) :
    (FileTree.linkTo path names).findUnder locks files =
      (.ok ⟨database, barrier files locks names⟩, files) := by
  rw [Link.findUnder, ready.find held, barrier]
  dsimp only
  rw [show (FileTree.linkTo path names).place? = some names from rfl]
  split <;> rfl

/-- **Opening a store in its file again loses nothing**, whether the store can be opened or not;
only a database with an older schema is changed at all. -/
theorem openIn_again (locks : Locks) (ids : IdSource) (now : Int) (ready : files.Ready path names)
    (held : files.content names = .ok database) (inFile : config.path = some path) :
    let again := openIn files locks config ids now
    ∃ kept, again.files.content names = .ok kept ∧ database.Keeps kept ∧
      (again.files = files ∨ 0 ≤ database.userVersion ∧ database.userVersion < Migration.latest) ∧
      ∀ other, again.result = .ok other → other.place = some names ∧ other.database = kept := by
  intro again
  have unchanged (same : again.files = files) (refused : ∀ other, again.result ≠ .ok other) :
      ∃ kept, again.files.content names = .ok kept ∧ database.Keeps kept ∧
        (again.files = files ∨
          0 ≤ database.userVersion ∧ database.userVersion < Migration.latest) ∧
        ∀ other, again.result = .ok other → other.place = some names ∧ other.database = kept :=
    ⟨database, by rw [same, held], .refl _, .inl same,
      fun other opened => absurd opened (refused other)⟩
  cases valid : config.validate with
  | error cause =>
      have refused : again = ⟨.error (.failure (.config cause)), [], files⟩ := by
        show openIn files locks config ids now = _
        rw [openIn, valid]
      refine unchanged (by rw [refused]) fun other opened => ?_
      rw [refused] at opened
      cases opened
  | ok done =>
      have came : files.openDatabase none config.path = (.ok (FileTree.linkTo path names), files) := by
        rw [inFile]
        exact ready.openDatabase
      have shown := findUnder_of_ready locks ready held
      cases brought : Found.migrate ⟨database, barrier files locks names⟩ with
      | error cause =>
          obtain ⟨refused, same⟩ := openIn_of_refused ids now valid came shown brought
          refine unchanged same fun other opened => ?_
          cases refused.symm.trans opened
      | ok outcome =>
          obtain ⟨kept, log⟩ := outcome
          have gives : again.Gives config (some names) kept files :=
            openIn_of_brought ids now valid came shown brought
          obtain ⟨_, keeps, changes⟩ := Found.migrate_eq_ok brought
          have written : again.files.content names = .ok kept := by
            rw [gives.files]
            exact FileTree.content_keep ready.names_ne_nil kept
          refine ⟨kept, written, keeps, ?_, fun other opened => (gives.store other opened).2⟩
          rcases changes with ⟨rfl, _⟩ | ⟨_, older, _⟩
          · exact .inl (gives.files.trans (FileTree.keep_of_held held))
          · exact .inr older

/-- A store whose schema is up to date can be opened in its file again, and is as it was, whoever
uses the file meanwhile. -/
theorem openIn_again_of_latest (locks : Locks) (ids : IdSource) (now : Int)
    (ready : files.Ready path names) (held : files.content names = .ok database)
    (inFile : config.path = some path) (valid : config.validate = .ok ())
    (fits : config.busyTimeout.Fits) (current : database.userVersion = Migration.latest) :
    let again := openIn files locks config ids now
    again.files = files ∧ ∃ other, again.result = .ok other ∧
      other.place = some names ∧ other.database = database := by
  have came : files.openDatabase none config.path = (.ok (FileTree.linkTo path names), files) := by
    rw [inFile]
    exact ready.openDatabase
  have gives := openIn_of_brought ids now valid came (findUnder_of_ready locks ready held)
    (Found.migrate_of_latest current)
  obtain ⟨other, opened⟩ := gives.opens fits
  exact ⟨gives.files.trans (FileTree.keep_of_held held), other, opened,
    (gives.store other opened).2⟩

end Store

end ScopedStore
