import ScopedStore.Database.Content
import ScopedStore.Database.Error
import ScopedStore.Files.Path

/-!
# Files and directories

A file tree tells for every place what stands there: a directory, a text, or a database.
A place is an absolute path without pieces that mean nothing and without `..`; the root is a
directory that stands at no place of its own.

The way from a path to a place leads through the directories that its pieces name, and each of
them has to be there. It begins at the root, or in the working directory if the path is not
absolute. A path that is empty or too long, or holds a NUL, leads nowhere.
-/

set_option autoImplicit false

namespace ScopedStore

/-- What stands at a place. -/
inductive FileNode
  | directory
  | text (content : String)
  | database (content : Database)

/-- What stands at every place, and the names of the working directory, where paths begin that are
not absolute. -/
structure FileTree where
  workingDirectory : List String
  nodes : SortedMap String FileNode

namespace FileTree

/-- A tree with nothing but the root. -/
def empty : FileTree := ⟨[], ∅⟩

instance : Inhabited FileTree := ⟨empty⟩

/-- The place of some names, from the root on. -/
def place (names : List String) : String := "/" ++ String.intercalate "/" names

/-- What stands at the place of some names. -/
def node? (tree : FileTree) (names : List String) : Option FileNode :=
  if names.isEmpty then some .directory else tree.nodes.get? (place names)

/-- The tree with something at the place of some names. -/
def withNode (tree : FileTree) (names : List String) (node : FileNode) : FileTree :=
  { tree with nodes := tree.nodes.insert (place names) node }

/-- The tree with nothing at the place of some names. -/
def withoutNode (tree : FileTree) (names : List String) : FileTree :=
  { tree with nodes := tree.nodes.erase (place names) }

/-! ## Walking -/

/-- Why a path leads nowhere, whatever stands where, if so. -/
def refusal? (path : String) : Option FileError :=
  if (Path.nulPosition? path).isSome then some .nulByte
  else if path.isEmpty then some .missing
  else if Path.isTooLong path then some .nameTooLong
  else none

/-- The names of the directory where a path begins. -/
def start (tree : FileTree) (path : String) : List String :=
  if Path.isAbsolute path then [] else tree.workingDirectory

/-- Walks from a directory through the directories that some pieces name. -/
def walk (tree : FileTree) (here : List String) : List String → Except FileError (List String)
  | [] => .ok here
  | piece :: rest =>
      if Path.isIdle piece then walk tree here rest
      else if piece = ".." then walk tree here.dropLast rest
      else if Path.isNameTooLong piece then .error .nameTooLong
      else
        let next := here ++ [piece]
        match tree.node? next with
        | some .directory => walk tree next rest
        | some _ => .error .notDirectory
        | none => .error .missing

/-- The names of the directory at a path. -/
def directory? (tree : FileTree) (path : String) : Except FileError (List String) :=
  match refusal? path with
  | some cause => .error cause
  | none => tree.walk (tree.start path) (Path.pieces path)

/-- Does a path lead to a directory? -/
def isDirectory (tree : FileTree) (path : String) : Bool :=
  match tree.directory? path with
  | .ok _ => true
  | .error _ => false

/-- What a path leads to: the names of the directory around it, and the last piece. -/
structure Target where
  names : List String
  last : String

namespace Target

/-- The names of what the path leads to, when the last piece is a name. -/
def whole (target : Target) : List String := target.names ++ [target.last]

/-- Does the last piece stand for a directory that is there in any case? -/
def isSpecial (target : Target) : Bool :=
  target.last == "" || target.last == "." || target.last == ".."

end Target

/-- What a path leads to. The root has no name. -/
def target (tree : FileTree) (path : String) : Except FileError Target :=
  match refusal? path, ((Path.pieces path).filter (· != "")).reverse with
  | some cause, _ => .error cause
  | none, [] => .ok ⟨[], ""⟩
  | none, last :: before =>
      match tree.walk (tree.start path) before.reverse with
      | .error cause => .error cause
      | .ok names => if Path.isNameTooLong last then .error .nameTooLong else .ok ⟨names, last⟩

/-- Does a path have a slash at its end? -/
def endsWithSlash (path : String) : Bool := path.toList.getLast? == some '/'

/-- Does a path lead to anything? -/
def isThere (tree : FileTree) (path : String) : Bool :=
  match tree.target path with
  | .error _ => false
  | .ok target =>
      if target.isSpecial || endsWithSlash path then tree.isDirectory path
      else (tree.node? target.whole).isSome

/-! ## Making -/

/-- Makes one directory. -/
def makeDirectory (tree : FileTree) (path : String) : Except FileError FileTree :=
  match tree.target path with
  | .error cause => .error cause
  | .ok target =>
      if target.isSpecial || (tree.node? target.whole).isSome then .error .occupied
      else .ok (tree.withNode target.whole .directory)

/-- Makes the first of some directories, if need be after those around it, which follow it. A
directory that stands there already is welcome, and the working directory has an empty path. What
was made around a directory stays when it cannot be made itself. -/
def makeFirst (tree : FileTree) : List String → Except FileError Unit × FileTree
  | [] => (.error .missing, tree)
  | path :: outer =>
      let settle (tree : FileTree) (cause : FileError) : Except FileError Unit × FileTree :=
        (if tree.isDirectory path then .ok () else .error cause, tree)
      if path.isEmpty then (.ok (), tree)
      else
        match tree.makeDirectory path with
        | .ok made => (.ok (), made)
        | .error .missing =>
            match makeFirst tree outer with
            | (.error cause, tree) => (.error cause, tree)
            | (.ok (), tree) =>
                match tree.makeDirectory path with
                | .ok made => (.ok (), made)
                | .error cause => settle tree cause
        | .error cause => settle tree cause

/-- Makes a directory and all directories around it that are not there. -/
def makeDirectories (tree : FileTree) (path : String) : Except FileError Unit × FileTree :=
  tree.makeFirst (path :: Path.parents path)

/-- Opens the file at a path for writing, which is made if it is not there; gives its names. -/
def openFile (tree : FileTree) (path : String) : Except FileError (List String × FileTree) :=
  match tree.target path with
  | .error cause => .error cause
  | .ok target =>
      if target.isSpecial || endsWithSlash path then .error .isDirectory
      else
        match tree.node? target.whole with
        | some .directory => .error .isDirectory
        | some _ => .ok (target.whole, tree)
        | none => .ok (target.whole, tree.withNode target.whole (.text ""))

/-- Writes a text behind that of the file at the place of some names. What is no text is left as
it is. -/
def appendText (tree : FileTree) (names : List String) (content : String) : FileTree :=
  match tree.node? names with
  | some (.text earlier) => tree.withNode names (.text (earlier ++ content))
  | _ => tree

/-- Writes a text to a file, in the place of what it held. -/
def writeText (tree : FileTree) (path content : String) : Except FileError Unit × FileTree :=
  match tree.openFile path with
  | .error cause => (.error cause, tree)
  | .ok (names, tree) => (.ok (), tree.withNode names (.text content))

/-! ## Listing -/

/-- The names in a directory, in order; none if there is no such directory. -/
def listing (tree : FileTree) (path : String) : List String :=
  match tree.directory? path with
  | .error _ => []
  | .ok names =>
      let start := (if names.isEmpty then "/" else place names ++ "/").toList
      tree.nodes.keys.filterMap fun key =>
        let characters := key.toList
        if start.isPrefixOf characters then
          let name := characters.drop start.length
          if name.contains '/' || name.isEmpty then none else some (String.ofList name)
        else none

/-- The texts in the files of a directory, in the order of their names. -/
def textsIn (tree : FileTree) (path : String) : List String :=
  match tree.directory? path with
  | .error _ => []
  | .ok names =>
      (tree.listing path).filterMap fun name =>
        match tree.node? (names ++ [name]) with
        | some (.text content) => some content
        | _ => none

end FileTree

end ScopedStore
