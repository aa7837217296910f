/-!
# UTF-8

`decodeLossy` reads bytes as UTF-8 and puts a mark in the place of each longest run of bytes that
begins a character but does not end it, or begins none.
-/

namespace AdvisoryFeed.Text

/-- The replacement character. -/
def replacement : Char := '\uFFFD'

/-- What the front of a list of bytes holds: a character and its number of bytes, or the number of
bytes that begin none. -/
inductive Utf8Step where
  | char (c : Char) (width : Nat)
  | broken (width : Nat)

/-- The number of continuation bytes that a leading byte asks for, the least and greatest first one,
and the bits of the leading byte that count. -/
def utf8Lead (b : UInt8) : Option (Nat × UInt8 × UInt8 × Nat) :=
  if 0xc2 ≤ b && b ≤ 0xdf then some (1, 0x80, 0xbf, b.toNat - 0xc0)
  else if b = 0xe0 then some (2, 0xa0, 0xbf, 0)
  else if b = 0xed then some (2, 0x80, 0x9f, 0xd)
  else if 0xe1 ≤ b && b ≤ 0xef then some (2, 0x80, 0xbf, b.toNat - 0xe0)
  else if b = 0xf0 then some (3, 0x90, 0xbf, 0)
  else if 0xf1 ≤ b && b ≤ 0xf3 then some (3, 0x80, 0xbf, b.toNat - 0xf0)
  else if b = 0xf4 then some (3, 0x80, 0x8f, 4)
  else none

/-- Reads the continuation bytes behind a leading byte, of which `seen` bytes are read. -/
def utf8Rest (seen acc : Nat) : Nat → UInt8 → UInt8 → List UInt8 → Utf8Step
  | 0, _, _, _ => .char (Char.ofNat acc) seen
  | missing + 1, low, high, b :: bytes =>
    if low ≤ b && b ≤ high then
      utf8Rest (seen + 1) (acc * 0x40 + (b.toNat - 0x80)) missing 0x80 0xbf bytes
    else .broken seen
  | _ + 1, _, _, [] => .broken seen

/-- Reads the front of a list of bytes that starts with `b`. -/
def utf8Step (b : UInt8) (bytes : List UInt8) : Utf8Step :=
  if b < 0x80 then .char (Char.ofNat b.toNat) 1
  else match utf8Lead b with
    | none => .broken 1
    | some (missing, low, high, acc) => utf8Rest 1 acc missing low high bytes

/-- Reads bytes as UTF-8, with `mark` for what is no character. -/
def decodeLossy (mark : Char) : List UInt8 → List Char
  | [] => []
  | b :: bytes =>
    match utf8Step b bytes with
    | .char c width => c :: decodeLossy mark (bytes.drop (width - 1))
    | .broken width => mark :: decodeLossy mark (bytes.drop (width - 1))
termination_by bytes => bytes.length
decreasing_by all_goals simp only [List.length_drop, List.length_cons]; omega

/-- The text of bytes in UTF-8, with the replacement character for what is no character. -/
def utf8Text (bytes : List UInt8) : String :=
  String.ofList (decodeLossy replacement bytes)

end AdvisoryFeed.Text
