import AdvisoryFeed.Config.Value
import AdvisoryFeed.Decimal.Shortest

/-!
# Values as JSON documents

`Value.json` writes a value as a JSON document of ASCII characters: an item or an entry a line, two
more spaces in front of them for each level.
-/

namespace AdvisoryFeed.Config

open AdvisoryFeed.Decimal AdvisoryFeed.Text

/-- Doubles are written with a point from 0.0001 on and below 10 ^ 16. -/
def realLayout : NumeralLayout :=
  ⟨-4, 16, 2⟩

/-- The escape of a unit of sixteen bits. -/
def unitEscape (n : Nat) : List Char :=
  '\\' :: 'u' :: hex 4 n

/-- A character in a quoted text. A character beyond ASCII is written by its units of sixteen bits.
-/
def jsonChar (c : Char) : List Char :=
  if c = doubleQuote ∨ c = '\\' then ['\\', c]
  else if c = '\n' then ['\\', 'n']
  else if c = '\r' then ['\\', 'r']
  else if c = '\t' then ['\\', 't']
  else if c = '\x08' then ['\\', 'b']
  else if c = '\x0c' then ['\\', 'f']
  else if 0x20 ≤ c.toNat ∧ c.toNat ≤ 0x7e then [c]
  else if c.toNat ≤ 0xffff then unitEscape c.toNat
  else
    let n := c.toNat - 0x10000
    unitEscape (0xd800 + n / 0x400) ++ unitEscape (0xdc00 + n % 0x400)

/-- A quoted text. -/
def jsonText (s : List Char) : List Char :=
  doubleQuote :: (s.flatMap jsonChar ++ [doubleQuote])

/-- The start of a line at a level. -/
def newLine (level : Nat) : List Char :=
  '\n' :: List.replicate (2 * level) ' '

/-- Writes the end of a list or a table; an empty one ends on the line of its start. -/
def jsonEnd (level : Nat) (isEmpty : Bool) (close : Char) : List Char :=
  (if isEmpty then [] else newLine level) ++ [close]

mutual

/-- Writes a value at a level. -/
def jsonAt (level : Nat) : Value → List Char
  | .null => "null".toList
  | .bool b => (if b then "true" else "false").toList
  | .int n => decimalInt n
  | .real x => realLayout.write x
  | .text s => jsonText s.toList
  | .list items => '[' :: (jsonItems (level + 1) false items ++ jsonEnd level items.isEmpty ']')
  | .table entries =>
    '\x7b' :: (jsonEntries (level + 1) false entries ++ jsonEnd level entries.isEmpty '\x7d')

/-- Writes items, with a comma before the first one if `later`. -/
def jsonItems (level : Nat) (later : Bool) : List Value → List Char
  | [] => []
  | item :: items =>
    (if later then [','] else []) ++ newLine level ++ jsonAt level item ++
      jsonItems level true items

/-- Writes entries, with a comma before the first one if `later`. -/
def jsonEntries (level : Nat) (later : Bool) : List (String × Value) → List Char
  | [] => []
  | (key, value) :: entries =>
    (if later then [','] else []) ++ newLine level ++ jsonText key.toList ++ ':' :: ' ' ::
      jsonAt level value ++ jsonEntries level true entries

end

/-- A value as a JSON document. -/
def Value.json (value : Value) : String :=
  String.ofList (jsonAt 0 value)

/-- What a value is called in messages; none for a list or a table. -/
def Value.label? : Value → Option String
  | .null => some "None"
  | .bool b => some (if b then "True" else "False")
  | .int n => some (showInt n)
  | .real x => some (String.ofList (realLayout.write x))
  | .text s => some s
  | _ => none

end AdvisoryFeed.Config
