import ScopedStore.Database.Companions
import ScopedStore.Database.Direct
import ScopedStore.Database.Locks

/-!
# Links to databases

A link is made from the name of a database, and leads to a file or to a database in memory.

The engine has a way of its own from a path to a place. It cuts `..` out of the path together
with the piece in front of it, whether that is there or not, and does not mind a slash at the
end. A piece may name nothing, but no piece may stand behind something that is no directory; and
the engine has only so much room for the path, and for that of the journal.

A link is made while an older one may still be there. When both share what they know of a
database, and call it by the same name, the newer one is the older one once more, whatever it
asked for: it may write if that one may, and leads to memory if that one does. Otherwise two
links meet only where the databases are, in files and in the file system in memory.

A link remembers what it has found. It does not look for a table that was not there when it
cannot read the file any longer, and it does not look at all again at a file that nobody will ever
change, not even at one that was blank from the start.

A blank file is a fresh database. The lines of a log wait in memory, so its file is blank.
-/

set_option autoImplicit false

namespace ScopedStore

/-- Where a link leads: to a database in memory, with a name if other links find it by that, or to
the file at the place of some names. -/
inductive Home
  | memory (known : Option String) (content : Database)
  | file (names : List String)

/-- What links call a database that share what they know of it: the file system, and the path of
the place or a name in its stead. -/
structure CommonName where
  system : String
  path : String
  deriving DecidableEq, Repr

/-- A link to a database: what was asked for, where it leads, what others call the database that
share what is known of it, if they may, and what was there when the link looked last, if it has
looked. -/
structure Link where
  name : DatabaseName
  home : Home
  common : Option CommonName
  seen : Option Database

/-- The names of the place to which a link leads. -/
def Link.place? (link : Link) : Option (List String) :=
  match link.home with
  | .memory .. => none
  | .file names => some names

namespace FileTree

/-! ## Places -/

/-- The number of bytes that the engine has room for in a path, while it is put together. -/
def engineRoom : Nat := 511

/-- Has the engine room for the place of some names, and for the journal beside it? -/
def fitsEngine (names : List String) : Bool :=
  decide (Text.size (place (beside names journalEnding)) ≤ engineRoom + 1)

/-- Can something stand at the place of some names, or is nothing known against it? -/
def isPossible (tree : FileTree) (names : List String) : Bool :=
  match tree.walk [] names.dropLast with
  | .ok _ => !(names.getLast?.any Path.isNameTooLong)
  | .error .missing => true
  | .error _ => false

/-- One step of the engine's way: the names so far, and one more piece. -/
def resolveStep (tree : FileTree) (names : List String) (piece : String) :
    Option (List String) :=
  if piece = ".." then some names.dropLast
  else
    let next := names ++ [piece]
    if Text.size (place next) ≤ engineRoom && tree.isPossible next then some next else none

/-- The names of the place that the engine makes of a path, if there can be a file. -/
def resolve (tree : FileTree) (path : String) : Option (List String) :=
  match (Path.components path).foldlM tree.resolveStep (tree.start path) with
  | none => none
  | some names => if !names.isEmpty && fitsEngine names then some names else none

/-! ## Linking -/

/-- Where a new link is to lead: to the file at the place of some names, or to a database in
memory, which may be that of an older link. -/
def home? (tree : FileTree) (older : Option Link) (name : DatabaseName) : Option Home :=
  match name.residence? with
  | none => none
  | some (.file path) => (tree.resolve path).map .file
  | some (.memory none) => some (.memory none .fresh)
  | some (.memory (some known)) =>
      match older.map Link.home with
      | some (.memory (some other) content) =>
          some (.memory (some known) (if known = other then content else .fresh))
      | _ => some (.memory (some known) .fresh)

/-- What others call the database of a name that leads somewhere, if they may share what is known
of it. -/
def commonName? (name : DatabaseName) (home : Home) : Option CommonName :=
  let path := match home with
    | .memory .. => name.file
    | .file names => place names
  if name.isSharable then some ⟨name.system, path⟩ else none

/-- Opens the file of a link, which is made if it is not there and may be made; the name is that
by which the database was asked for. -/
def openHome (tree : FileTree) (name : String) (link : Link) : Except EngineError FileTree :=
  match link.home with
  | .memory .. => .ok tree
  | .file names =>
      match tree.node? names, link.name.access, tree.node? names.dropLast with
      | some .directory, .read, _ => .error .unreadable
      | some .directory, _, _ => .error (.cannotOpen name)
      | some _, _, _ => .ok tree
      | none, .create, some .directory => .ok (tree.withNode names (.text ""))
      | none, _, _ => .error (.cannotOpen name)

/-- Opens the database of a name as it is, while an older link may be there. -/
def link (tree : FileTree) (older : Option Link) (name : String) :
    Except EngineError (Link × FileTree) := do
  let asked ← DatabaseName.read name
  match tree.home? older asked with
  | none => throw (.cannotOpen name)
  | some home =>
      let link : Link := ⟨asked, home, commonName? asked home, none⟩
      match older.filter fun older => older.common.isSome && older.common == link.common with
      | some older => return (older, tree)
      | none =>
          let tree ← tree.openHome name link
          let isBlank := asked.immutable && link.place?.any tree.isBlank
          return ({ link with seen := if isBlank then some .fresh else none }, tree)

/-- Opens the database of a name, and makes the directories around the path that the name is; or
opens one in memory when there is no name. What was made stays when the opening fails. -/
def openDatabase (tree : FileTree) (older : Option Link) :
    Option String → Except DatabaseError Link × FileTree
  | none => (.ok ⟨.inMemory, .memory none .fresh, none, none⟩, tree)
  | some name =>
      match (Path.parent? name).elim (.ok (), tree) tree.makeDirectories with
      | (.error cause, tree) => (.error (.file cause), tree)
      | (.ok (), tree) =>
          match tree.link older name with
          | .error cause => (.error (.engine cause), tree)
          | .ok (link, tree) => (.ok link, tree)

/-! ## Contents -/

/-- The content of the database in the file at the place of some names. -/
def content (tree : FileTree) (names : List String) : Except EngineError Database :=
  match tree.node? names with
  | some (.database content) => .ok content
  | some (.text _) => if tree.isBlank names then .ok .fresh else .error .notDatabase
  | some .directory | none => .error (.cannotOpen (place names))

/-- The tree with the content that a database should have, in the file at the place of some
names, if any; nothing is written when it has that already. -/
def keep (tree : FileTree) (names : Option (List String)) (content : Database) : FileTree :=
  match names with
  | none => tree
  | some names =>
      match tree.content names with
      | .ok held => if held = content then tree else tree.withContent names content
      | .error _ => tree.withContent names content

end FileTree

namespace Link

/-- The database to which a link leads, and the files after the engine has looked at those beside
its own. -/
def find (link : Link) (files : FileTree) : Except EngineError Found × FileTree :=
  let found (obstacle : Option EngineError) (content : Database) : Found :=
    ⟨content, if link.name.isReadOnly then some .readOnly else obstacle⟩
  match link.home, link.name.immutable, link.seen with
  | .memory _ content, _, _ | .file _, true, some content => (.ok (found none content), files)
  | .file names, true, none =>
      if files.isBlank names then (.error .notDatabase, files)
      else ((files.content names).map (found none), files)
  | .file names, false, _ =>
      match files.settle link.name names with
      | (.error cause, files) => (.error cause, files)
      | (.ok (), files) =>
          ((files.content names).map (found (files.obstacle? names)), files)

/-- The database to which a link leads, under the locks of others. -/
def findUnder (locks : Locks) (link : Link) (files : FileTree) :
    Except EngineError Found × FileTree :=
  let (found, files) := link.find files
  let held (found : Found) : Found :=
    if locks.on link.place? = .free then found else { found with obstacle := some .locked }
  (found.map held, files)

/-- The link and the files with other content of the database. -/
def save (link : Link) (files : FileTree) (content : Database) : Link × FileTree :=
  let link := { link with seen := link.seen.map fun _ => content }
  match link.home with
  | .memory known _ => ({ link with home := .memory known content }, files)
  | .file names => (link, files.withContent names content)

/-- The link once it has looked. -/
def looked (link : Link) (found : Except EngineError Found) : Link :=
  match found with
  | .ok found => { link with seen := some found.content }
  | .error _ => link

/-- What a link says to an action without looking at the database, if anything: that it may not
write. Whether a table is there it knows only of those that it has seen. -/
def refusal? (link : Link) (action : DirectAction) : Option EngineError :=
  let isSeen (table : String) : Bool := link.seen.any (·.tableNames.contains table)
  if link.name.isReadOnly && action.isChange && action.table?.all isSeen then some .readOnly
  else none

/-- Why an action fails when the database cannot be read. -/
def failure (link : Link) (action : DirectAction) (cause : EngineError) : EngineError :=
  match link.seen, action.table? with
  | some seen, some table => if seen.tableNames.contains table then cause else .noSuchTable table
  | _, _ => cause

end Link

end ScopedStore
