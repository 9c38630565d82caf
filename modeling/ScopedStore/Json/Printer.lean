import ScopedStore.Json.Value
import ScopedStore.Decimal.Shortest

/-!
# JSON text: writing

The compact text of a value: no blanks, members in the order in which the value holds them.
In a text only the quote, the backslash and the controls are escaped; the controls with a
letter of their own by that letter, the others by four hexadecimal digits.
-/

set_option autoImplicit false

namespace ScopedStore.Json

open Decimal

/-- Numbers are positional while the first digit stands for `10 ^ -5` to `10 ^ 15`. -/
def numberLayout : NumberLayout where
  lowestPositional := -5
  highestPositional := 15

/-- The four hexadecimal digits of a code below `2 ^ 16`. -/
def fourHexDigits (code : Nat) : List Char :=
  let digits := Nat.toDigits 16 code
  List.replicate (4 - digits.length) '0' ++ digits

/-- The form that a character takes in a JSON text. -/
def escaped (character : Char) : List Char :=
  match character with
  | '"' => ['\\', '"']
  | '\\' => ['\\', '\\']
  | '\n' => ['\\', 'n']
  | '\r' => ['\\', 'r']
  | '\t' => ['\\', 't']
  | '\x08' => ['\\', 'b']
  | '\x0c' => ['\\', 'f']
  | other =>
      if other.toNat < 0x20 then '\\' :: 'u' :: fourHexDigits other.toNat else [other]

/-- A text with its quotes. -/
def textChars (value : String) : List Char :=
  '"' :: value.toList.flatMap escaped ++ ['"']

/-- An integer in decimal digits. -/
def integerChars : Int → List Char
  | .ofNat magnitude => Nat.toDigits 10 magnitude
  | .negSucc magnitude => '-' :: Nat.toDigits 10 (magnitude + 1)

mutual

/-- The characters of the compact text of a value. -/
def chars : Json → List Char
  | .null => ['n', 'u', 'l', 'l']
  | .bool true => ['t', 'r', 'u', 'e']
  | .bool false => ['f', 'a', 'l', 's', 'e']
  | .integer value => integerChars value
  | .double value => value.render numberLayout
  | .text value => textChars value
  | .array [] => ['[', ']']
  | .array (item :: rest) => '[' :: item.chars ++ charsOfItems rest ++ [']']
  | .object [] => ['\x7b', '\x7d']
  | .object ((name, value) :: rest) =>
      '\x7b' :: textChars name ++ ':' :: value.chars ++ charsOfMembers rest ++ ['\x7d']

/-- The items behind the first one, each behind a comma. -/
def charsOfItems : List Json → List Char
  | [] => []
  | item :: rest => ',' :: item.chars ++ charsOfItems rest

/-- The members behind the first one, each behind a comma. -/
def charsOfMembers : List (String × Json) → List Char
  | [] => []
  | (name, value) :: rest =>
      ',' :: textChars name ++ ':' :: value.chars ++ charsOfMembers rest

end

/-- The compact text of a value. -/
def render (value : Json) : String := String.ofList value.chars

end ScopedStore.Json
