import ScopedStore.Database.Name
import ScopedStore.Files.Tree

/-!
# Companions of database files

The engine keeps files of its own beside that of a database: a journal, which protects a change
while it is made; a log of changes that have not reached the file yet, which is kept only for a
database that asks for it; and in one of the file systems a lock. It looks for them by their
names each time it reads, so it also meets what others have put there.

A journal that starts with a NUL, or holds nothing, protects nothing. One that starts with
something else is what an interrupted change has left: the change is undone, and the journal
removed. As no journal written here is ever left, nothing is there to undo. Beside a blank file a
journal or a log is left from another database, and removed.

A file that nobody will ever change has no companions.
-/

set_option autoImplicit false

namespace ScopedStore

namespace FileTree

/-! ## Places -/

/-- What the name of a journal has at its end. -/
def journalEnding : String := "-journal"

/-- What the name of a log of changes has at its end. -/
def logEnding : String := "-wal"

/-- What the name of a lock has at its end. -/
def lockEnding : String := ".lock"

/-- The names of the place beside that of some names, with something more at its end. -/
def beside (names : List String) (ending : String) : List String :=
  names.dropLast ++ (names.getLast?.map (· ++ ending)).toList

/-- Is the name of a companion too long for it to be there? -/
def isBesideTooLong (names : List String) (ending : String) : Bool :=
  (beside names ending).getLast?.any Path.isNameTooLong

/-- Is the file at the place of some names one that no database has been written to? The engine
takes a single byte for a mark of its own. -/
def isBlank (tree : FileTree) (names : List String) : Bool :=
  match tree.node? names with
  | some (.text content) => content.utf8ByteSize ≤ 1
  | _ => false

/-- Does a text stand for nothing at the beginning of a journal? -/
def isIdleJournal (content : String) : Bool :=
  match content.toList with
  | [] | '\x00' :: _ => true
  | _ => false

/-! ## Before reading -/

/-- What looking at the companions of a file comes to, and the tree afterwards. -/
abbrev Settling : Type := Except EngineError Unit × FileTree

/-- Takes the lock beside a file, and gives it back. -/
def settleLock (tree : FileTree) (name : DatabaseName) (names : List String) : Settling :=
  if name.system ≠ DatabaseName.lockFileSystem ∨ name.unlocked then (.ok (), tree)
  else if isBesideTooLong names lockEnding then (.error .unreadable, tree)
  else if (tree.node? (beside names lockEnding)).isSome then (.error .locked, tree)
  else (.ok (), tree)

/-- Undoes what the journal beside a file says. -/
def settleJournal (tree : FileTree) (name : DatabaseName) (names : List String) : Settling :=
  let journal := beside names journalEnding
  let undone : Settling :=
    if name.isReadOnly then (.error .readOnly, tree) else (.ok (), tree.withoutNode journal)
  match tree.node? journal, tree.isBlank names with
  | none, _ | some .directory, true => (.ok (), tree)
  | some .directory, false => (.error .unreadable, tree)
  | some (.database _), false => undone
  | some (.text content), false => if isIdleJournal content then (.ok (), tree) else undone
  | some (.text ""), true => (.ok (), tree)
  | some _, true => (.ok (), if name.isReadOnly then tree else tree.withoutNode journal)

/-- Looks at the log of changes beside a file. -/
def settleLog (tree : FileTree) (name : DatabaseName) (names : List String) : Settling :=
  let log := beside names logEnding
  match tree.node? log, tree.isBlank names with
  | none, _ | some (.text ""), _ => (.ok (), tree)
  | some .directory, true => (.error .unreadable, tree)
  | some _, true => (.ok (), tree.withoutNode log)
  | some .directory, false => (.error .cannotProtect, tree)
  | some _, false => (if name.mayHaveLog then .ok () else .error .cannotProtect, tree)

/-- Looks at the companions of a file before the database in it is read. -/
def settle (tree : FileTree) (name : DatabaseName) (names : List String) : Settling :=
  if name.immutable then (.ok (), tree)
  else
    match tree.settleLock name names with
    | (.error cause, tree) => (.error cause, tree)
    | (.ok (), tree) =>
        match tree.settleJournal name names with
        | (.error cause, tree) => (.error cause, tree)
        | (.ok (), tree) => tree.settleLog name names

/-! ## Writing -/

/-- Why a change of the file at the place of some names cannot be protected, if so. -/
def obstacle? (tree : FileTree) (names : List String) : Option EngineError :=
  match isBesideTooLong names journalEnding, tree.node? (beside names journalEnding) with
  | true, _ | _, some .directory => some .cannotProtect
  | _, _ => none

/-- The tree with other content of the database in the file at the place of some names. The
journal that protects the change is gone afterwards, and so is any other. -/
def withContent (tree : FileTree) (names : List String) (content : Database) : FileTree :=
  (tree.withNode names (.database content)).withoutNode (beside names journalEnding)

end FileTree

end ScopedStore
