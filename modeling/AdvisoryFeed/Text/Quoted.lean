import AdvisoryFeed.Text.Printable

/-!
# Quoted texts

The form in which messages show a text that came from outside: between quotes, on one line, and with
every character that is not printable written as an escape.
-/

namespace AdvisoryFeed.Text

/-- The apostrophe. -/
def apostrophe : Char := '\x27'

/-- The double quotation mark. -/
def doubleQuote : Char := '\x22'

/-- A hexadecimal digit, in lower case. -/
def hexDigit (n : Nat) : Char :=
  Nat.digitChar (n % 16)

/-- The last `width` hexadecimal digits of a number. -/
def hex : Nat → Nat → List Char
  | 0, _ => []
  | width + 1, n => hex width (n / 16) ++ [hexDigit n]

/-- There are as many digits as asked for. -/
theorem length_hex (width n : Nat) : (hex width n).length = width := by
  induction width generalizing n with
  | zero => rfl
  | succ w ih => simp [hex, ih]

/-- A character of a quoted text: a backslash stands before a quote and before itself, line feeds,
carriage returns and tabs are named, and other characters that are not printable are numbered with
two, four or eight digits. -/
def escaped (quote c : Char) : List Char :=
  if c = quote || c = '\\' then ['\\', c]
  else if c = '\n' then ['\\', 'n']
  else if c = '\r' then ['\\', 'r']
  else if c = '\t' then ['\\', 't']
  else if isPrintable c then [c]
  else if c.toNat < 0x100 then '\\' :: 'x' :: hex 2 c.toNat
  else if c.toNat < 0x10000 then '\\' :: 'u' :: hex 4 c.toNat
  else '\\' :: 'U' :: hex 8 c.toNat

/-- The quote around a text: an apostrophe, unless the text has apostrophes and no double quotes. -/
def quoteFor (s : List Char) : Char :=
  if s.contains apostrophe && !s.contains doubleQuote then doubleQuote else apostrophe

/-- A text between quotes. -/
def quoted (s : List Char) : List Char :=
  quoteFor s :: s.flatMap (escaped (quoteFor s)) ++ [quoteFor s]

/-- The quoted form of a string. -/
def quote (s : String) : String :=
  String.ofList (quoted s.toList)

/-- Several quoted strings in square brackets, with a comma and a space between them. -/
def quoteAll (items : List String) : String :=
  "[" ++ ", ".intercalate (items.map quote) ++ "]"

end AdvisoryFeed.Text
