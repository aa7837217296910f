import AdvisoryFeed.Config.Plain
import AdvisoryFeed.Keyed
import AdvisoryFeed.Text.Lines
import AdvisoryFeed.Text.Quoted
import AdvisoryFeed.Text.Search

/-!
# Values between brackets

Lists between brackets, tables between braces, and quoted texts, as in JSON documents. Plain scalars
and comments may stand in them too.
-/

namespace AdvisoryFeed.Config

open AdvisoryFeed.Text AdvisoryFeed.Decimal

/-- A blank or a line end. -/
def isSpacing (c : Char) : Bool :=
  c == ' ' || c == '\t' || isLineEnd c

/-- What stands behind blanks, line ends and comments; in a comment if `comment`. -/
def skipSpacing : Bool → List Char → List Char
  | _, [] => []
  | true, c :: s => skipSpacing (!isLineEnd c) s
  | false, c :: s =>
    if isSpacing c then skipSpacing false s
    else if c = '#' then skipSpacing true s
    else c :: s

/-- The number of a hexadecimal digit. -/
def hexValue? (c : Char) : Option Nat :=
  if c.isDigit then some (c.toNat - '0'.toNat)
  else if 'a' ≤ c ∧ c ≤ 'f' then some (c.toNat - 'a'.toNat + 10)
  else if 'A' ≤ c ∧ c ≤ 'F' then some (c.toNat - 'A'.toNat + 10)
  else none

/-- The number of `width` hexadecimal digits, and what follows them. -/
def hexNumber? : Nat → Nat → List Char → Option (Nat × List Char)
  | 0, value, s => some (value, s)
  | _ + 1, _, [] => none
  | width + 1, value, c :: s =>
    (hexValue? c).bind fun digit => hexNumber? width (value * 16 + digit) s

/-- The escapes of one character. -/
def simpleEscapes : List (Char × Char) :=
  [('0', '\x00'), ('a', '\x07'), ('b', '\x08'), ('t', '\t'), ('n', '\n'), ('v', '\x0b'),
   ('f', '\x0c'), ('r', '\r'), ('e', '\x1b'), (' ', ' '), ('/', '/'), ('\\', '\\'),
   (doubleQuote, doubleQuote)]

/-- The number of digits in an escape by the code point. -/
def escapeWidth? (c : Char) : Option Nat :=
  [('x', 2), ('u', 4), ('U', 8)].lookup c

/-- The character that a code unit starts, and what follows it. A unit that opens a pair takes the
other one with it. -/
def unitChar (n : Nat) (s : List Char) : Char × List Char :=
  if 0xd800 ≤ n ∧ n ≤ 0xdbff then
    match s with
    | '\\' :: 'u' :: rest =>
      match hexNumber? 4 0 rest with
      | some (low, after) =>
        if 0xdc00 ≤ low ∧ low ≤ 0xdfff then
          (Char.ofNat (0x10000 + (n - 0xd800) * 0x400 + (low - 0xdc00)), after)
        else ('\ufffd', s)
      | none => ('\ufffd', s)
    | _ => ('\ufffd', s)
  else if 0xdc00 ≤ n ∧ n ≤ 0xdfff then ('\ufffd', s)
  else (Char.ofNat n, s)

/-- The character of an escape, and what follows it. -/
def escape? : List Char → Option (Char × List Char)
  | [] => none
  | c :: s =>
    match escapeWidth? c with
    | some width => (hexNumber? width 0 s).map fun parts => unitChar parts.1 parts.2
    | none => (simpleEscapes.lookup c).map fun e => (e, s)

/-- The text as written up to a double quote behind no backslash, and what follows the quote. -/
def quotedRun : List Char → Option (List Char × List Char)
  | [] => none
  | '\\' :: c :: s => (quotedRun s).map fun rest => ('\\' :: c :: rest.1, rest.2)
  | c :: s =>
    if c = doubleQuote then some ([], s)
    else (quotedRun s).map fun rest => (c :: rest.1, rest.2)

/-- A text as written with its escapes replaced; line ends must not stand in it. -/
def unescape : Nat → List Char → Option (List Char)
  | _, [] => some []
  | 0, _ :: _ => none
  | fuel + 1, c :: s =>
    if c = '\\' then
      (escape? s).bind fun parts => (unescape fuel parts.2).map fun rest => parts.1 :: rest
    else if isLineEnd c then none
    else (unescape fuel s).map fun rest => c :: rest

/-- The text up to a double quote, and what follows the quote. -/
def doubleQuoted (s : List Char) : Option (List Char × List Char) :=
  (quotedRun s).bind fun parts =>
    (unescape parts.1.length parts.1).map fun text => (text, parts.2)

/-- The text up to an apostrophe that stands alone, and what follows it. -/
def singleQuoted : List Char → Option (List Char × List Char)
  | [] => none
  | [c] => if c = apostrophe then some ([], []) else none
  | c :: d :: s =>
    if c = apostrophe then
      if d = apostrophe then (singleQuoted s).map fun rest => (d :: rest.1, rest.2)
      else some ([], d :: s)
    else if isLineEnd c then none
    else (singleQuoted (d :: s)).map fun rest => (c :: rest.1, rest.2)

/-- A quoted text at the front, and what follows it. -/
def quotedText? : List Char → Option (List Char × List Char)
  | [] => none
  | c :: s =>
    if c = doubleQuote then doubleQuoted s
    else if c = apostrophe then singleQuoted s
    else none

/-- A character that ends a plain scalar between brackets. -/
def isBracketOrComma (c : Char) : Bool :=
  [',', '[', ']', '\x7b', '\x7d'].contains c

/-- A plain scalar ends where a colon is followed by spacing or by nothing. -/
def endsAtColon : List Char → Bool
  | [] => true
  | c :: _ => isSpacing c || isBracketOrComma c

/-- The plain scalar at the front with the blanks behind it, and what follows them. -/
def plainRun : List Char → List Char × List Char
  | [] => ([], [])
  | c :: s =>
    if isLineEnd c || isBracketOrComma c || (c == ':' && endsAtColon s) then ([], c :: s)
    else
      let rest := plainRun s
      (c :: rest.1, rest.2)

/-- A scalar at the front, and what follows it. -/
def flowScalar (s : List Char) : Option (Value × List Char) :=
  match quotedText? s with
  | some (text, rest) => some (.text (String.ofList text), rest)
  | none =>
    let run := plainRun s
    if run.1.isEmpty || s.head? = some doubleQuote || s.head? = some apostrophe then none
    else some (plainValue (trimBy isSpacing run.1), run.2)

/-- The name of an entry: a text, or what the scalar is called. -/
def keyOf (value : Value) : String :=
  match value with
  | .text s => s
  | .int n => showInt n
  | .bool b => if b then "true" else "false"
  | _ => "null"

mutual

/-- A value at the front, and what follows it. -/
def flowValue : Nat → List Char → Option (Value × List Char)
  | 0, _ => none
  | fuel + 1, s =>
    match skipSpacing false s with
    | [] => none
    | '[' :: rest => (flowItems fuel rest).map fun parts => (.list parts.1, parts.2)
    | '\x7b' :: rest => (flowEntries fuel [] rest).map fun parts => (.table parts.1, parts.2)
    | c :: rest => flowScalar (c :: rest)

/-- Items up to the closing bracket, and what follows it. -/
def flowItems : Nat → List Char → Option (List Value × List Char)
  | 0, _ => none
  | fuel + 1, s =>
    match skipSpacing false s with
    | ']' :: rest => some ([], rest)
    | rest => do
      let (item, after) ← flowValue fuel rest
      match skipSpacing false after with
      | ',' :: more => (flowItems fuel more).map fun parts => (item :: parts.1, parts.2)
      | ']' :: more => some ([item], more)
      | _ => none

/-- Entries up to the closing brace, added to those before them, and what follows it. -/
def flowEntries : Nat → List (String × Value) → List Char →
    Option (List (String × Value) × List Char)
  | 0, _, _ => none
  | fuel + 1, entries, s =>
    match skipSpacing false s with
    | '\x7d' :: rest => some (entries, rest)
    | rest => do
      let (key, after) ← flowScalar rest
      match skipSpacing false after with
      | ':' :: body => do
        let (value, tail) ← flowValue fuel body
        let entries := putPair (keyOf key) value entries
        match skipSpacing false tail with
        | ',' :: more => flowEntries fuel entries more
        | '\x7d' :: more => some (entries, more)
        | _ => none
      | _ => none

end

/-- A value that is all of a text, comments apart. -/
def wholeFlow (s : List Char) : Option Value :=
  match flowValue (2 * s.length + 2) s with
  | some (value, rest) => if (skipSpacing false rest).isEmpty then some value else none
  | none => none

end AdvisoryFeed.Config
