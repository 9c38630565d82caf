import ScopedStore.Text.Bytes
import ScopedStore.Text.Pieces

/-!
# Paths

A path is a text, cut into pieces by slashes. Empty pieces and the piece `.` mean nothing, and
the piece `..` means the directory above. A path that starts with a slash is absolute.

Paths are the same when the same pieces are left without those that mean nothing; the piece `..`
is kept, for what is above a directory is not known from its name.

Names and paths are limited by the number of their bytes, and neither may hold the character NUL,
for the system takes it for their end. A name need not be a text at all; then NUL marks its bytes
that belong to no character.
-/

set_option autoImplicit false

namespace ScopedStore.Path

/-- The pieces of a path, in front of, between and behind its slashes. -/
def pieces (path : String) : List String := (Text.piecesAt '/' path.toList).map String.ofList

/-- Does a piece mean nothing? -/
def isIdle (piece : String) : Bool := piece == "" || piece == "."

/-- The pieces that mean something. -/
def components (path : String) : List String := (pieces path).filter fun piece => !isIdle piece

/-! ## Limits -/

/-- The number of bytes that a name may have. -/
def nameLimit : Nat := 255

/-- Has a name more bytes than it may have? -/
def isNameTooLong (name : String) : Bool := decide (nameLimit < Text.size name)

/-- The number of bytes that a path may not reach. -/
def lengthLimit : Nat := 4096

/-- Has a path as many bytes as it may not have? -/
def isTooLong (path : String) : Bool := decide (lengthLimit ≤ Text.size path)

/-- The number of bytes in front of the first NUL in a path, if it holds one. -/
def nulPosition? (path : String) : Option Nat :=
  let front := path.toList.takeWhile (· != '\x00')
  if front.length = path.toList.length then none else some (String.ofList front).utf8ByteSize

/-! ## Directories -/

/-- Does a path start at the root? -/
def isAbsolute (path : String) : Bool := path.toList.head? == some '/'

/-- Are two paths the same, piece by piece? -/
def same (first second : String) : Bool :=
  isAbsolute first == isAbsolute second && components first == components second

/-- The path of some pieces. -/
def ofPieces (absolute : Bool) (pieces : List String) : String :=
  (if absolute then "/" else "") ++ String.intercalate "/" pieces

/-- The paths of the directories around the last of some pieces, which are given from the last
one on; the nearest directory comes first. -/
def around (absolute : Bool) : List String → List String
  | [] => []
  | piece :: outer =>
      if isIdle piece then around absolute outer
      else
        let directory := outer.dropWhile isIdle
        let names := match directory.reverse with
          | "" :: rest => rest
          | other => other
        ofPieces absolute names :: around absolute outer

/-- The paths of the directories around a path, the nearest first. -/
def parents (path : String) : List String := around (isAbsolute path) (pieces path).reverse

/-- The path of the directory around a path. -/
def parent? (path : String) : Option String := (parents path).head?

/-- The path without `.` and empty pieces, from a directory on unless it is absolute. A slash at
its end stays, and so does the second of exactly two at its start. -/
def absolute (directory path : String) : String :=
  let names := String.intercalate "/" (components path)
  let start :=
    if isAbsolute path then
      match path.toList with
      | '/' :: '/' :: '/' :: _ => "/"
      | '/' :: '/' :: _ => "//"
      | _ => "/"
    else if names.isEmpty || directory.toList.getLast? == some '/' then directory
    else directory ++ "/"
  let whole := start ++ names
  if path.toList.getLast? == some '/' && whole.toList.getLast? != some '/' then whole ++ "/"
  else whole

end ScopedStore.Path
