import ScopedStore.Text.Pieces

/-!
# Object ids

A new object takes its id from a source of random numbers of 128 bits. The id is the number as a
version 4 identifier: its 32 hexadecimal digits, with the thirteenth set to `4` and the two top
bits of the seventeenth set to `10`, in five groups.

The source is a stream and the number of ids drawn from it, so that statements about any run can
range over any stream, with repetitions or without.
-/

set_option autoImplicit false

namespace ScopedStore

namespace ObjectId

/-- The hexadecimal digit of a number below sixteen. -/
def hexDigit (value : Nat) : Char := Nat.digitChar value

/-- The value of a hexadecimal digit in either case; other characters count as zero. -/
def hexValue (character : Char) : Nat := (Text.hexDigit? character).getD 0

/-- The number that hexadecimal digits denote. -/
def ofHex (text : String) : Nat :=
  text.toList.foldl (fun number character => number * 16 + hexValue character) 0

/-- The lowest 32 hexadecimal digits of a number, the most significant first. -/
def digits (number : Nat) : List Nat :=
  ((List.range 32).map fun place => number / Nat.pow 16 place % 16).reverse

/-- Marks the digits as a version 4 identifier of the common variant. -/
def marked (digits : List Nat) : List Nat :=
  digits.mapIdx fun place digit =>
    if place == 12 then 4
    else if place == 16 then 8 + digit % 4
    else digit

/-- The id of a random number. -/
def ofNumber (number : Nat) : String :=
  let written := (marked (digits number)).map hexDigit
  let group (start length : Nat) : List Char := (written.drop start).take length
  String.ofList (group 0 8 ++ '-' :: group 8 4 ++ '-' :: group 12 4 ++ '-' :: group 16 4 ++
    '-' :: group 20 12)

end ObjectId

/-- Where new ids come from: a stream of ids, and how many of them have been drawn. -/
structure IdSource where
  upcoming : Nat → String
  drawn : Nat

namespace IdSource

instance : Inhabited IdSource := ⟨fun _ => "", 0⟩

/-- Draws an id. -/
def draw (source : IdSource) : String × IdSource :=
  (source.upcoming source.drawn, { source with drawn := source.drawn + 1 })

/-- The source that takes the given random numbers, then one, two, three and so on. -/
def ofNumbers (given : List Nat) : IdSource where
  upcoming place :=
    match given[place]? with
    | some number => ObjectId.ofNumber number
    | none => ObjectId.ofNumber (place - given.length + 1)
  drawn := 0

end IdSource

end ScopedStore
