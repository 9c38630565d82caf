import ScopedStore.Decimal.Literal
import ScopedStore.Json.Value
import ScopedStore.Text.Pieces

/-!
# JSON text: reading

Reading is strict: one value, with nothing but blanks around it. A number that is too large for
a double, a surrogate without its partner and a raw control character inside a text are refused.
Of two members with the same name the later one stays.

The reader takes the number of levels of arrays and objects that it accepts; the recursion
itself is bounded by the length of the text, of which every step takes at least one character.
-/

set_option autoImplicit false

namespace ScopedStore.Json

open Decimal

/-- A value read from the front of a text, with the characters behind it. -/
abbrev Reading (α : Type) := Option (α × List Char)

/-- The four characters that may stand between the parts of a JSON text. -/
def isSpace (character : Char) : Bool :=
  character == ' ' || character == '\n' || character == '\t' || character == '\r'

/-- The text behind its leading spaces. -/
def skipSpaces (characters : List Char) : List Char := characters.dropWhile isSpace

/-! ## Texts -/

/-- The number that four hexadecimal digits write. -/
def hexUnit? (first second third fourth : Char) : Option Nat := do
  let first ← Text.hexDigit? first
  let second ← Text.hexDigit? second
  let third ← Text.hexDigit? third
  let fourth ← Text.hexDigit? fourth
  return ((first * 16 + second) * 16 + third) * 16 + fourth

/-- The character that the letter behind a backslash stands for. -/
def unescape? : Char → Option Char
  | '"' => some '"'
  | '\\' => some '\\'
  | '/' => some '/'
  | 'b' => some '\x08'
  | 'f' => some '\x0c'
  | 'n' => some '\n'
  | 'r' => some '\r'
  | 't' => some '\t'
  | _ => none

/-- The character of a pair of surrogates. -/
def surrogatePair? (high low : Nat) : Option Char :=
  if 0xDC00 ≤ low && low ≤ 0xDFFF then
    some (Char.ofNat (0x10000 + (high - 0xD800) * 0x400 + (low - 0xDC00)))
  else none

/-- Reads the characters of a text up to its closing quote, given those in front, last first. -/
def readText (gathered : List Char) : List Char → Reading String
  | [] => none
  | '"' :: rest => some (String.ofList gathered.reverse, rest)
  | '\\' :: 'u' :: a :: b :: c :: d :: rest =>
      match hexUnit? a b c d with
      | none => none
      | some unit =>
          if 0xD800 ≤ unit && unit ≤ 0xDBFF then
            match rest with
            | '\\' :: 'u' :: e :: f :: g :: h :: behind =>
                match (hexUnit? e f g h).bind (surrogatePair? unit) with
                | none => none
                | some character => readText (character :: gathered) behind
            | _ => none
          else if 0xDC00 ≤ unit && unit ≤ 0xDFFF then none
          else readText (Char.ofNat unit :: gathered) rest
  | '\\' :: letter :: rest =>
      match unescape? letter with
      | none => none
      | some character => readText (character :: gathered) rest
  | character :: rest =>
      if character.toNat < 0x20 || character == '\\' then none
      else readText (character :: gathered) rest

/-! ## Numbers -/

/-- The digits at the front, as numbers, and the characters behind them. -/
def readDigits (characters : List Char) : List Nat × List Char :=
  ((characters.takeWhile Char.isDigit).map fun digit => digit.toNat - 0x30,
    characters.dropWhile Char.isDigit)

/-- Reads a fraction, if a point follows. A point without digits is refused. -/
def readFraction : List Char → Reading (Option (List Nat))
  | '.' :: rest =>
      match readDigits rest with
      | ([], _) => none
      | (digits, behind) => some (some digits, behind)
  | rest => some (none, rest)

/-- Reads an exponent, if its letter follows. A letter without digits is refused. -/
def readExponent (characters : List Char) : Reading (Option (Bool × List Nat)) :=
  let written (downwards : Bool) (rest : List Char) : Reading (Option (Bool × List Nat)) :=
    match readDigits rest with
    | ([], _) => none
    | (digits, behind) => some (some (downwards, digits), behind)
  match characters with
  | 'e' :: '-' :: rest | 'E' :: '-' :: rest => written true rest
  | 'e' :: '+' :: rest | 'E' :: '+' :: rest => written false rest
  | 'e' :: rest | 'E' :: rest => written false rest
  | rest => some (none, rest)

/-- Reads the parts of a number. A zero in front of other digits is refused. -/
def readLiteral (characters : List Char) : Option (Literal × List Char) :=
  let (negative, unsigned) := match characters with
    | '-' :: rest => (true, rest)
    | rest => (false, rest)
  match readDigits unsigned with
  | ([], _) | (0 :: _ :: _, _) => none
  | (whole, behind) => do
      let (fraction, behind) ← readFraction behind
      let (exponent, behind) ← readExponent behind
      return (⟨negative, whole, fraction, exponent⟩, behind)

/-- Reads a number. -/
def readNumber (characters : List Char) : Option (Json × List Char) := do
  let (literal, rest) ← readLiteral characters
  match ← literal.value? with
  | .integer value => return (.integer value, rest)
  | .double value => return (.double value, rest)

/-! ## Values -/

mutual

/-- Reads a value with at most `levels` levels of arrays and objects. -/
def readValue (fuel levels : Nat) (characters : List Char) : Reading Json :=
  match fuel with
  | 0 => none
  | fuel + 1 =>
      match skipSpaces characters with
      | 'n' :: 'u' :: 'l' :: 'l' :: rest => some (.null, rest)
      | 't' :: 'r' :: 'u' :: 'e' :: rest => some (.bool true, rest)
      | 'f' :: 'a' :: 'l' :: 's' :: 'e' :: rest => some (.bool false, rest)
      | '"' :: rest => (readText [] rest).map fun (value, behind) => (.text value, behind)
      | '[' :: rest =>
          match levels with
          | 0 => none
          | levels + 1 =>
              match skipSpaces rest with
              | ']' :: behind => some (.array [], behind)
              | inside =>
                  (readItems fuel levels inside).map fun (items, behind) => (.array items, behind)
      | '\x7b' :: rest =>
          match levels with
          | 0 => none
          | levels + 1 =>
              match skipSpaces rest with
              | '\x7d' :: behind => some (.object [], behind)
              | inside =>
                  (readMembers fuel levels inside).map fun (members, behind) =>
                    (.ofMembers members, behind)
      | other => readNumber other

/-- Reads the items of an array up to its closing bracket. -/
def readItems (fuel levels : Nat) (characters : List Char) : Reading (List Json) :=
  match fuel with
  | 0 => none
  | fuel + 1 =>
      match readValue fuel levels characters with
      | none => none
      | some (item, rest) =>
          match skipSpaces rest with
          | ',' :: behind =>
              (readItems fuel levels behind).map fun (items, behind) => (item :: items, behind)
          | ']' :: behind => some ([item], behind)
          | _ => none

/-- Reads the members of an object up to its closing brace. -/
def readMembers (fuel levels : Nat) (characters : List Char) : Reading (List (String × Json)) :=
  match fuel with
  | 0 => none
  | fuel + 1 =>
      match skipSpaces characters with
      | '"' :: inside =>
          match readText [] inside with
          | none => none
          | some (name, rest) =>
              match skipSpaces rest with
              | ':' :: rest =>
                  match readValue fuel levels rest with
                  | none => none
                  | some (value, rest) =>
                      match skipSpaces rest with
                      | ',' :: behind =>
                          (readMembers fuel levels behind).map fun (members, behind) =>
                            ((name, value) :: members, behind)
                      | '\x7d' :: behind => some ([(name, value)], behind)
                      | _ => none
              | _ => none
      | _ => none

end

/-- The number of levels of arrays and objects in a text that a store accepts. -/
def maxLevels : Nat := 127

/-- The value of a text with at most `levels` levels of arrays and objects. -/
def parseWithin? (levels : Nat) (text : String) : Option Json :=
  let characters := text.toList
  match readValue (2 * characters.length + 2) levels characters with
  | some (value, rest) => if (skipSpaces rest).isEmpty then some value else none
  | none => none

/-- The value of a text. -/
def parse? (text : String) : Option Json := parseWithin? maxLevels text

end ScopedStore.Json
