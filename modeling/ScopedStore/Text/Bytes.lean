/-!
# Texts of bytes

Bytes that come from outside need not be the UTF-8 form of a text. They are read in portions: a
character whose bytes are complete, or the bytes of a character that was begun but not completed,
as long as they could have become one, or a single byte with which no character begins.

There are two texts of such bytes. The one that is shown puts the replacement character in the
place of every portion that is no character, and so different bytes may be shown alike. The
other tells all bytes apart: it has a NUL in front of every byte of no character, and then the
character of the number of that byte. A name of a file has no NUL of its own, and so the bytes of
a name can be counted from this text (`size`).
-/

set_option autoImplicit false

namespace ScopedStore.Text

/-- What some bytes in a row are: a character, or bytes of no character. -/
inductive Portion
  | character (value : Char)
  | stray (bytes : List UInt8)

/-- The least and the greatest byte at a place inside a character. -/
abbrev ByteRange : Type := UInt8 × UInt8

/-- Where the bytes lie that continue a character, but for some second bytes. -/
def continuing : ByteRange := (0x80, 0xBF)

/-- The ranges of the bytes that have to follow the first byte of a character, if it can be one. -/
def following (first : UInt8) : Option (List ByteRange) :=
  if first < 0x80 then some []
  else if first < 0xC2 then none
  else if first < 0xE0 then some [continuing]
  else if first = 0xE0 then some [(0xA0, 0xBF), continuing]
  else if first = 0xED then some [(0x80, 0x9F), continuing]
  else if first < 0xF0 then some [continuing, continuing]
  else if first = 0xF0 then some [(0x90, 0xBF), continuing, continuing]
  else if first < 0xF4 then some [continuing, continuing, continuing]
  else if first = 0xF4 then some [(0x80, 0x8F), continuing, continuing]
  else none

/-- The character of its bytes. The more bytes follow, the fewer bits of the first one count. -/
def characterOf (bytes : List UInt8) : Char :=
  match bytes.map UInt8.toNat with
  | [first] => Char.ofNat first
  | [first, second] => Char.ofNat (first % 32 * 64 + second % 64)
  | [first, second, third] => Char.ofNat ((first % 16 * 64 + second % 64) * 64 + third % 64)
  | [first, second, third, fourth] =>
      Char.ofNat (((first % 8 * 64 + second % 64) * 64 + third % 64) * 64 + fourth % 64)
  | _ => Char.ofNat 0xFFFD

/-- The ranges that are left when a byte lies in the first of some. -/
def accept (byte : UInt8) : List ByteRange → Option (List ByteRange)
  | (least, greatest) :: later => if least ≤ byte && byte ≤ greatest then some later else none
  | [] => none

/-- The portions of bytes, some of which begin a character and are held, with the ranges of the
bytes that are owed to it. -/
def portionsFrom (held : List UInt8) (owed : List ByteRange) : List UInt8 → List Portion
  | [] => if held.isEmpty then [] else [.stray held]
  | byte :: rest =>
      match accept byte owed with
      | some [] => .character (characterOf (held ++ [byte])) :: portionsFrom [] [] rest
      | some later => portionsFrom (held ++ [byte]) later rest
      | none =>
          (if held.isEmpty then [] else [.stray held]) ++
            match following byte with
            | none => .stray [byte] :: portionsFrom [] [] rest
            | some [] => .character (characterOf [byte]) :: portionsFrom [] [] rest
            | some owed => portionsFrom [byte] owed rest

/-- The portions of bytes. -/
def portions (bytes : List UInt8) : List Portion := portionsFrom [] [] bytes

/-- The text of bytes as it is shown. -/
def shown (bytes : List UInt8) : String :=
  String.ofList ((portions bytes).map fun
    | .character value => value
    | .stray _ => Char.ofNat 0xFFFD)

/-- The text of bytes that tells them apart. -/
def told (bytes : List UInt8) : String :=
  String.ofList ((portions bytes).flatMap fun
    | .character value => [value]
    | .stray bytes => bytes.flatMap fun byte => ['\x00', Char.ofNat byte.toNat])

/-- The number of bytes of which a text tells. A byte of no character takes three in the text. -/
def size (text : String) : Nat := text.utf8ByteSize - 2 * text.toList.count '\x00'

end ScopedStore.Text
