/-!
# Characters and pieces of texts

Hexadecimal digits may be spelled in either case. Blanks are the characters with the Unicode
property `White_Space`. Names that callers supply are compared without the blanks around them;
blanks inside a name are part of it.

A mark cuts a text into the pieces in front of, between and behind its occurrences; so there is
one piece more than there are marks, and none of them holds the mark.

A phrase cuts a text in front of its first occurrence.

The lines of a text end with a line feed, or with a carriage return and a line feed; behind the
last line feed there is a line only if there is any text.
-/

set_option autoImplicit false

namespace ScopedStore.Text

/-! ## Digits and blanks -/

/-- The value of a hexadecimal digit in either case. -/
def hexDigit? (character : Char) : Option Nat :=
  let code := character.toNat
  if 0x30 ≤ code && code ≤ 0x39 then some (code - 0x30)
  else if 0x41 ≤ code && code ≤ 0x46 then some (code - 0x41 + 10)
  else if 0x61 ≤ code && code ≤ 0x66 then some (code - 0x61 + 10)
  else none

/-- Has the character the property `White_Space`? -/
def isBlank (character : Char) : Bool :=
  let code := character.toNat
  (0x9 ≤ code && code ≤ 0xD) || code == 0x20 || code == 0x85 || code == 0xA0 ||
    code == 0x1680 || (0x2000 ≤ code && code ≤ 0x200A) || code == 0x2028 || code == 0x2029 ||
    code == 0x202F || code == 0x205F || code == 0x3000

/-- The characters without the blanks at either end. -/
def trimBlanks (characters : List Char) : List Char :=
  ((characters.dropWhile isBlank).reverse.dropWhile isBlank).reverse

/-- The text without the blanks at either end. -/
def trim (text : String) : String := String.ofList (trimBlanks text.toList)

/-! ## Pieces -/

/-- The pieces into which a mark cuts a text. -/
def piecesAt (mark : Char) : List Char → List (List Char)
  | [] => [[]]
  | character :: rest =>
      if character = mark then [] :: piecesAt mark rest
      else
        match piecesAt mark rest with
        | [] => [[character]]
        | piece :: later => (character :: piece) :: later

/-- What stands in front of the first occurrence of a mark, and what stands behind it. -/
def cutAt (mark : Char) (characters : List Char) : List Char × List Char :=
  (characters.takeWhile (· != mark), (characters.dropWhile (· != mark)).drop 1)

/-- What stands in front of the first occurrence of a phrase, and the rest from there on. Without
an occurrence there is no rest. -/
def cutBefore (phrase : List Char) : List Char → List Char × List Char
  | [] => ([], [])
  | character :: later =>
      if phrase.isPrefixOf (character :: later) then ([], character :: later)
      else
        let (front, rest) := cutBefore phrase later
        (character :: front, rest)

/-- A line without the carriage return at its end. -/
def withoutReturn (line : List Char) : List Char :=
  if line.getLast? = some '\r' then line.dropLast else line

/-- The lines of a text. -/
def lines (text : String) : List String :=
  match (piecesAt '\n' text.toList).reverse with
  | [] => []
  | last :: ended =>
      ((ended.reverse.map withoutReturn) ++ if last.isEmpty then [] else [last]).map String.ofList

end ScopedStore.Text
