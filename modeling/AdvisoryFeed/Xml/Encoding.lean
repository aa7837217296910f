import AdvisoryFeed.Text.CodePage
import AdvisoryFeed.Text.Utf8

/-!
# Encodings of documents

The bytes of a document are read as characters by an encoding. The first bytes tell whether a
document is in UTF-16; any other document is in UTF-8 unless its declaration names another encoding.
Bytes that stand for no character are read as `noCharacter`, which no document may hold.
-/

namespace AdvisoryFeed.Xml

open AdvisoryFeed.Text

/-- The encodings that a document may be in. -/
inductive Encoding where
  | utf8
  | utf16 (bigEndian : Bool)
  /-- One byte a character, by a code page. -/
  | byteWise (page : CodePage)
deriving DecidableEq, Repr

/-- What is read for bytes without a character. -/
def noCharacter : Char := '\uFFFF'

/-- The character of a code unit outside the surrogates. -/
def unitChar (n : Nat) : Char :=
  if n = 0xfffe then noCharacter else Char.ofNat n

/-- Joins pairs of bytes to code units and pairs of surrogates to characters. -/
def decodeUtf16 (bigEndian : Bool) : List UInt8 → List Char
  | a :: b :: c :: d :: bytes =>
    let high := pair a b
    let low := pair c d
    if 0xd800 ≤ high && high < 0xdc00 then
      if 0xdc00 ≤ low && low < 0xe000 then
        Char.ofNat (0x10000 + (high - 0xd800) * 0x400 + (low - 0xdc00)) ::
          decodeUtf16 bigEndian bytes
      else noCharacter :: decodeUtf16 bigEndian (c :: d :: bytes)
    else if 0xdc00 ≤ high && high < 0xe000 then
      noCharacter :: decodeUtf16 bigEndian (c :: d :: bytes)
    else unitChar high :: decodeUtf16 bigEndian (c :: d :: bytes)
  | a :: b :: rest =>
    let unit := pair a b
    (if 0xd800 ≤ unit && unit < 0xe000 then noCharacter else unitChar unit) ::
      rest.map fun _ => noCharacter
  | [_] => [noCharacter]
  | [] => []
where
  /-- The code unit of two bytes. -/
  pair (first second : UInt8) : Nat :=
    if bigEndian then first.toNat * 0x100 + second.toNat else second.toNat * 0x100 + first.toNat

/-- Reads bytes as characters. -/
def Encoding.decode : Encoding → List UInt8 → List Char
  | .utf8, bytes => decodeLossy noCharacter bytes
  | .utf16 bigEndian, bytes => decodeUtf16 bigEndian bytes
  | .byteWise page, bytes => bytes.map fun b => (page.char? b).getD noCharacter

/-- The encoding of a document that is read as `current` and declares the encoding `name`, if the
two agree. -/
def Encoding.declared? (current : Encoding) (name : String) : Option Encoding :=
  let upper := name.map Char.toUpper
  match current with
  | .utf16 bigEndian =>
    if upper = "UTF-16" || upper = (if bigEndian then "UTF-16BE" else "UTF-16LE") then some current
    else none
  | _ =>
    if upper = "UTF-8" then some .utf8
    else (codePage? name).map .byteWise

/-- The encoding that the first bytes show, and the bytes behind a byte order mark. -/
def Encoding.detect : List UInt8 → Encoding × List UInt8
  | 0xfe :: 0xff :: bytes => (.utf16 true, bytes)
  | 0xff :: 0xfe :: bytes => (.utf16 false, bytes)
  | 0xef :: 0xbb :: 0xbf :: bytes => (.utf8, bytes)
  | 0 :: bytes => (.utf16 true, 0 :: bytes)
  | b :: 0 :: bytes => (.utf16 false, b :: 0 :: bytes)
  | bytes => (.utf8, bytes)

end AdvisoryFeed.Xml
