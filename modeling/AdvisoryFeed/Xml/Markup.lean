import AdvisoryFeed.Text.Search
import AdvisoryFeed.Xml.Name

/-!
# Markup

The pieces of markup that stand in and around the elements of a document: comments, processing
instructions, references and literals. A reader takes its piece from the front of a text and gives
what the piece holds and the rest of the text; it gives nothing for a text that is not well-formed.
-/

namespace AdvisoryFeed.Xml

open AdvisoryFeed.Text

/-- The text behind the blanks of the markup. -/
def skipBlanks (s : List Char) : List Char :=
  s.dropWhile isXmlBlank

/-- A blank of the markup stands at the front of a text. -/
def startsBlank (s : List Char) : Bool :=
  (s.head?.map isXmlBlank).getD false

/-- The rest of a text that starts with `marker`. -/
def afterMarker? (marker s : List Char) : Option (List Char) :=
  if marker.isPrefixOf s then some (s.drop marker.length) else none

/-- Line ends are read as line feeds. -/
def foldLineEnds : List Char → List Char
  | [] => []
  | '\r' :: '\n' :: s => '\n' :: foldLineEnds s
  | '\r' :: s => '\n' :: foldLineEnds s
  | c :: s => c :: foldLineEnds s

/-- The text up to `marker`, which must hold only characters of documents, and what is behind it. -/
def scanUntil (marker s : List Char) : Option (List Char × List Char) :=
  (splitFirst marker s).filter fun parts => parts.1.all isXmlChar

/-- The text behind a comment, of which the opening mark is read. -/
def scanComment (s : List Char) : Option (List Char) :=
  match scanUntil "--".toList s with
  | some (_, '>' :: rest) => some rest
  | _ => none

/-- The target of a processing instruction, of which the opening mark is read, and the text behind
the instruction. -/
def scanInstruction (s : List Char) : Option (List Char × List Char) :=
  match scanName s with
  | none => none
  | some (target, rest) =>
    if target.map Char.toLower = "xml".toList then none
    else match rest with
      | '?' :: '>' :: rest => some (target, rest)
      | c :: rest =>
        if isXmlBlank c then (scanUntil "?>".toList rest).map fun parts => (target, parts.2)
        else none
      | [] => none

/-- The value of a hexadecimal digit. -/
def hexValue? (c : Char) : Option Nat :=
  if c.isDigit then some (c.toNat - 0x30)
  else if 'a' ≤ c && c ≤ 'f' then some (c.toNat - 0x57)
  else if 'A' ≤ c && c ≤ 'F' then some (c.toNat - 0x37)
  else none

/-- The number that digits of a base stand for; there must be a digit. -/
def baseValue? (base : Nat) (digit? : Char → Option Nat) (s : List Char) : Option Nat :=
  if s.isEmpty then none
  else s.foldl (fun acc c => acc.bind fun n => (digit? c).map fun d => n * base + d) (some 0)

/-- The character of a code point that a document may hold. -/
def charOf? (n : Nat) : Option Char :=
  if n < 0x110000 && !(0xd800 ≤ n && n < 0xe000) && isXmlChar (Char.ofNat n) then
    some (Char.ofNat n)
  else none

/-- The character of a reference by number, without the marks around it. -/
def numbered? : List Char → Option Char
  | 'x' :: s => (baseValue? 16 hexValue? s).bind charOf?
  | s => (baseValue? 10 (fun c => if c.isDigit then hexValue? c else none) s).bind charOf?

/-- The character of an entity that every document knows. -/
def predefined? (name : List Char) : Option Char :=
  [("lt", '<'), ("gt", '>'), ("amp", '&'), ("quot", '\x22'), ("apos", '\x27')].lookup
    (String.ofList name)

/-- What a reference, without the marks around it, stands for. A document may pass over the entities
that it does not know only where `lenient` holds. -/
def reference? (lenient : Bool) : List Char → Option (List Char)
  | '#' :: s => (numbered? s).map fun c => [c]
  | s =>
    match scanName s with
    | some (name, []) =>
      match predefined? name with
      | some c => some [c]
      | none => if lenient then some [] else none
    | _ => none

/-- Replaces the references in a text and reads what stands between them by `plain?`. -/
def expand (lenient : Bool) (plain? : List Char → Option (List Char)) (s : List Char) :
    Option (List Char) :=
  match splitAll '&' s with
  | [] => some []
  | first :: pieces => do
    let front ← plain? first
    let behind ← pieces.mapM fun piece => do
      let (reference, rest) ← splitFirst [';'] piece
      let value ← reference? lenient reference
      let text ← plain? rest
      some (value ++ text)
    some (front ++ behind.flatten)

/-- The plain text of an attribute value: blanks are read as spaces. -/
def plainValue? (s : List Char) : Option (List Char) :=
  if s.all fun c => isXmlChar c && c != '<' then
    some (s.map fun c => if isXmlBlank c then ' ' else c)
  else none

/-- The plain text between elements, in which the end mark of marked sections must not stand. -/
def plainText? (s : List Char) : Option (List Char) :=
  if s.all isXmlChar && !contains "]]>".toList s then some s else none

/-- The value of an attribute as written between its quotes. -/
def attributeValue? (lenient : Bool) (s : List Char) : Option String :=
  (expand lenient plainValue? s).map String.ofList

/-- The text between two quotes of one kind and the text behind them. -/
def scanQuoted : List Char → Option (List Char × List Char)
  | [] => none
  | quote :: s =>
    if quote == '\x22' || quote == '\x27' then splitFirst [quote] s else none

/-- Reads the attributes of a tag, up to the end of the tag: the attributes, whether the tag closes
its element, and the text behind the tag. -/
def scanAttributes (lenient : Bool) :
    Nat → List Char → Option (List (RawName × String) × Bool × List Char)
  | 0, _ => none
  | fuel + 1, s =>
    match skipBlanks s with
    | '>' :: rest => some ([], false, rest)
    | '/' :: '>' :: rest => some ([], true, rest)
    | front =>
      if !startsBlank s then none
      else do
        let (name, s) ← scanRawName front
        let s ← afterMarker? ['='] (skipBlanks s)
        let (raw, s) ← scanQuoted (skipBlanks s)
        let value ← attributeValue? lenient raw
        let (attributes, closed, rest) ← scanAttributes lenient fuel s
        some ((name, value) :: attributes, closed, rest)

/-- A piece of the content of a document. -/
inductive Token where
  /-- A tag that opens an element and may close it as well. -/
  | opening (name : RawName) (attributes : List (RawName × String)) (closed : Bool)
  | closing (name : RawName)
  /-- Text, and whether it is written as it is. -/
  | text (content : List Char) (plain : Bool)
deriving DecidableEq, Repr

/-- Reads a piece of content that starts with the opening mark of markup, which is read. Comments
and instructions give no token. A tag has at most `bound` attributes. -/
def scanMarkup (lenient : Bool) (bound : Nat) (s : List Char) :
    Option (Option Token × List Char) :=
  match s with
  | '!' :: '-' :: '-' :: rest => (scanComment rest).map fun rest => (none, rest)
  | '!' :: rest => do
    let rest ← afterMarker? "[CDATA[".toList rest
    let (content, rest) ← scanUntil "]]>".toList rest
    some (some (.text content false), rest)
  | '?' :: rest => (scanInstruction rest).map fun parts => (none, parts.2)
  | '/' :: rest => do
    let (name, rest) ← scanRawName rest
    let rest ← afterMarker? ['>'] (skipBlanks rest)
    some (some (.closing name), rest)
  | _ => do
    let (name, rest) ← scanRawName s
    let (attributes, closed, rest) ← scanAttributes lenient bound rest
    some (some (.opening name attributes closed), rest)

/-- The tokens of a text. -/
def tokens? (lenient : Bool) : Nat → List Char → Option (List Token)
  | _, [] => some []
  | 0, _ :: _ => none
  | fuel + 1, '<' :: s => do
    let (token, rest) ← scanMarkup lenient fuel s
    let tokens ← tokens? lenient fuel rest
    some (token.toList ++ tokens)
  | fuel + 1, s => do
    let raw := s.takeWhile (· != '<')
    let content ← expand false plainText? raw
    let tokens ← tokens? lenient fuel (s.dropWhile (· != '<'))
    some (.text content (!raw.contains '&') :: tokens)

end AdvisoryFeed.Xml
