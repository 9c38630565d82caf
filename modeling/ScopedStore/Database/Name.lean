import ScopedStore.Database.Error
import ScopedStore.Decimal.Double
import ScopedStore.Files.Path
import ScopedStore.Text.Pieces

/-!
# Names of databases

The engine is given a database by its name. As a rule the name is the path of a file; the empty
name and `:memory:` stand for a database in memory.

A name that starts with `file:` is an address. It may name a machine behind two slashes, which
has to be this one; then comes the path, and behind a question mark there may be parameters, each
of them a name, or a name, an equals sign and a value, with ampersands between them. A hash ends
the address. A percent sign and two hexadecimal digits stand for a byte, and an escaped zero byte
ends the part in which it stands. The bytes of a path need not be a text.

Five parameters matter. They say what the connection may do (`mode`), whether connections of one
program share what they know of a database (`cache`), which file system holds the file (`vfs`),
whether nobody will ever change the file (`immutable`), and whether it is used without locks
(`nolock`); of the file systems one keeps its files in memory. Of the first three a later one
counts more than an earlier one of its name, but it may not ask for more than the earlier one has
left; of the last two the first one counts, whose value is a word for yes or no, or a number.
Parameters without a name, and all others, mean nothing.
-/

set_option autoImplicit false

namespace ScopedStore

/-- What a connection may do with a file: it may read what is there, or write it, or write and make
the file if it is not there; or there is no file. -/
inductive AccessMode
  | read
  | write
  | create
  | memory
  deriving DecidableEq, Repr

namespace AccessMode

/-- The mode that a word asks for. -/
def ofWord? : String → Option AccessMode
  | "ro" => some .read
  | "rw" => some .write
  | "rwc" => some .create
  | "memory" => some .memory
  | _ => none

/-- How much a mode asks for. -/
def demand : AccessMode → Nat
  | memory => 0
  | read => 1
  | write => 2
  | create => 3

/-- How much may be asked for behind a mode. -/
def allowance : AccessMode → Nat
  | read => 1
  | write => 2
  | create | memory => 3

end AccessMode

/-- What the name of a database says: the path of the file, or a name in its place, what a
connection may do, whether connections share what they know of the database, the file system that
holds the file, whether nobody will ever change the file, and whether it is used without locks. -/
structure DatabaseName where
  file : String
  access : AccessMode
  shared : Bool
  system : String
  immutable : Bool
  unlocked : Bool
  deriving DecidableEq, Repr

/-- Where a database lives: in memory, with a name if the connections find it there by that name, or
in a file. -/
inductive Residence
  | memory (known : Option String)
  | file (path : String)
  deriving DecidableEq, Repr

namespace DatabaseName

/-- The file system that is meant when none is named. -/
def usualSystem : String := "unix"

/-- The file system that keeps its files in memory. -/
def memorySystem : String := "memdb"

/-- The file system that locks a file by another one beside it. -/
def lockFileSystem : String := "unix-dotfile"

/-- The file system of programs that let no other program near their files. -/
def exclusiveSystem : String := "unix-excl"

/-- The file systems that there are. -/
def systems : List String :=
  [usualSystem, lockFileSystem, exclusiveSystem, "unix-none", memorySystem]

/-- The name that is the path of a file. -/
def ofPath (path : String) : DatabaseName := ⟨path, .create, false, usualSystem, false, false⟩

/-- The name of a database in memory. -/
def memoryName : String := ":memory:"

/-- What the name says of a database in memory that belongs to one connection. -/
def inMemory : DatabaseName := ofPath memoryName

/-! ## Addresses -/

/-- The bytes of a part of an address. -/
def bytesOf : List Char → List UInt8
  | '%' :: high :: low :: rest =>
      match Text.hexDigit? high, Text.hexDigit? low with
      | some high, some low =>
          if high = 0 ∧ low = 0 then [] else UInt8.ofNat (16 * high + low) :: bytesOf rest
      | _, _ => String.utf8EncodeChar '%' ++ bytesOf (high :: low :: rest)
  | character :: rest => String.utf8EncodeChar character ++ bytesOf rest
  | [] => []

/-- The parameters of an address, those without a name left out. -/
def parameters (query : List Char) : List (String × String) :=
  let named := (Text.piecesAt '&' query).map fun piece =>
    let (name, value) := Text.cutAt '=' piece
    (Text.shown (bytesOf name), Text.shown (bytesOf value))
  named.filter fun parameter => parameter.1 != ""

/-- What a name says once a parameter is added to it. -/
def withParameter (name : DatabaseName) : String × String → Except EngineError DatabaseName
  | ("vfs", system) => .ok { name with system }
  | ("cache", "shared") => .ok { name with shared := true }
  | ("cache", "private") => .ok { name with shared := false }
  | ("cache", mode) => .error (.unknownCache mode)
  | ("mode", mode) =>
      match AccessMode.ofWord? mode with
      | none => .error (.unknownAccess mode)
      | some access =>
          if access.demand ≤ name.access.allowance then .ok { name with access }
          else .error (.forbiddenAccess mode)
  | _ => .ok name

/-- The name of the machine in front of a path, and the path. -/
def cutAuthority : List Char → Except EngineError (List Char)
  | '/' :: '/' :: rest =>
      let authority := String.ofList (rest.takeWhile (· != '/'))
      if authority = "" ∨ authority = "localhost" then .ok (rest.dropWhile (· != '/'))
      else .error (.unknownAuthority authority)
  | path => .ok path

/-- The number of digits of some base. -/
def numberOf (base : Nat) (digits : List Char) : Nat :=
  digits.foldl (fun number digit => number * base + (Text.hexDigit? digit).getD 0) 0

/-- The number with which a word begins, or zero if there is no room for it in 31 bits. -/
def leadingNumber (word : List Char) : Nat :=
  let within (room base : Nat) (digits : List Char) : Nat :=
    let number := numberOf base digits
    if digits.length ≤ room ∧ number < Bounds.signed32 then number else 0
  let isHexadecimal (character : Char) : Bool := (Text.hexDigit? character).isSome
  let decimal := within 10 10 ((word.dropWhile (· == '0')).takeWhile Char.isDigit)
  match word with
  | '0' :: mark :: digit :: rest =>
      if (mark == 'x' || mark == 'X') && isHexadecimal digit then
        within 8 16 (((digit :: rest).dropWhile (· == '0')).takeWhile isHexadecimal)
      else decimal
  | _ => decimal

/-- Is a value a yes? Of a number only the last eight bits count. -/
def isYes (value : String) : Bool :=
  if (value.toList.head?.map Char.isDigit).getD false then
    decide (leadingNumber value.toList % 256 ≠ 0)
  else ["on", "yes", "true"].contains (String.ofList (value.toList.map Char.toLower))

/-- What an address says; the characters are those behind `file:`. -/
def ofAddress (address : List Char) : Except EngineError DatabaseName := do
  let rest ← cutAuthority address
  let (path, query) := Text.cutAt '?' (Text.cutAt '#' rest).1
  let parameters := parameters query
  let affirms (name : String) : Bool := (parameters.lookup name).elim false isYes
  let name := ofPath (Text.told (bytesOf path))
  parameters.foldlM withParameter
    { name with immutable := affirms "immutable", unlocked := affirms "nolock" }

/-- What a name says. -/
def read (name : String) : Except EngineError DatabaseName :=
  match Path.nulPosition? name, name.toList with
  | some position, _ => .error (.nulInName position)
  | none, 'f' :: 'i' :: 'l' :: 'e' :: ':' :: address =>
      match ofAddress address with
      | .error cause => .error cause
      | .ok name =>
          if systems.contains name.system then .ok name
          else .error (.unknownSystem name.system)
  | none, _ => .ok (ofPath name)

/-! ## Residences -/

/-- Does no file system hold the database, not even one in memory? -/
def isHeldByNone (name : DatabaseName) : Bool :=
  name.file == "" || name.file == memoryName || name.access == .memory

/-- Do other connections find a file of the file system in memory by its name? -/
def isFoundInMemory (file : String) : Bool :=
  match file.toList with
  | '/' :: _ :: _ | '\\' :: _ :: _ => true
  | _ => false

/-- The number of bytes that the name of a file may have in the file system in memory. -/
def memoryRoom : Nat := 1016

/-- Where the database of a name lives, if there is room for the name. -/
def residence? (name : DatabaseName) : Option Residence :=
  if name.isHeldByNone then some (.memory none)
  else if name.system = memorySystem then
    if memoryRoom < Text.size name.file then none
    else some (.memory (if isFoundInMemory name.file then some name.file else none))
  else some (.file name.file)

/-- Is nothing to be written? Nobody changes what nobody ever changes. -/
def isReadOnly (name : DatabaseName) : Bool :=
  name.access == .read || (name.immutable && !name.isHeldByNone)

/-- Can there be a log of changes beside the file? Connections have to agree about it. -/
def mayHaveLog (name : DatabaseName) : Bool :=
  !name.unlocked && (name.system == usualSystem || name.system == exclusiveSystem)

/-- May connections share what they know of the database? They know none without a name. -/
def isSharable (name : DatabaseName) : Bool := name.shared && name.file != ""

end DatabaseName

end ScopedStore
