import AdvisoryFeed.Config.Flow

/-!
# Values by indentation

Tables with an entry a line and lists with an item a line, nested by the number of spaces in front
of the lines. `Value.ofText?` reads a document of either form.
-/

namespace AdvisoryFeed.Config

open AdvisoryFeed.Text

/-- A line with something on it. -/
structure BlockLine where
  indent : Nat
  text : List Char
deriving DecidableEq, Repr

/-- A text without the comment at its end, after a blank if `free`. -/
def cutComment : Bool → List Char → List Char
  | _, [] => []
  | free, c :: s => if free && c = '#' then [] else c :: cutComment (isSpacing c) s

/-- A text that has quotes in it. -/
def hasQuote (s : List Char) : Bool :=
  s.any fun c => c == doubleQuote || c == apostrophe

/-- The line that a text is, if there is something on it. -/
def BlockLine.ofText? (s : List Char) : Option BlockLine :=
  let indent := (s.takeWhile (· == ' ')).length
  let body := s.drop indent
  let text := trimBy isSpacing (if hasQuote body then body else cutComment true body)
  if text.isEmpty || text.head? = some '#' then none else some ⟨indent, text⟩

/-- The lines of a document. -/
def blockLines (s : List Char) : List BlockLine :=
  (lines s).filterMap BlockLine.ofText?

/-- What an item is, behind the hyphen: the number of characters before it, and the text. -/
def itemText? : List Char → Option (Nat × List Char)
  | ['-'] => some (1, [])
  | '-' :: c :: s =>
    if isSpacing c then
      let blanks := ((c :: s).takeWhile isSpacing).length
      some (blanks + 1, (c :: s).dropWhile isSpacing)
    else none
  | _ => none

/-- The key of an entry and the text behind the colon. -/
def entryText? (s : List Char) : Option (String × List Char) := do
  let (key, rest) ← flowScalar s
  match rest with
  | ':' :: text => some (keyOf key, trimBy isSpacing text)
  | _ => none

/-- The value of a text on one line. -/
def lineValue (s : List Char) : Option Value :=
  if hasQuote s || s.head?.any isBracketOrComma then wholeFlow s
  else some (plainValue s)

mutual

/-- The value that the first lines stand for, and the lines behind it. -/
def blockValue : Nat → List BlockLine → Option (Value × List BlockLine)
  | 0, _ => none
  | _ + 1, [] => some (.null, [])
  | fuel + 1, line :: rest =>
    if (itemText? line.text).isSome then
      (blockItems fuel line.indent (line :: rest)).map fun parts => (.list parts.1, parts.2)
    else if (entryText? line.text).isSome then
      (blockEntries fuel line.indent [] (line :: rest)).map fun parts => (.table parts.1, parts.2)
    else (lineValue line.text).map fun value => (value, rest)

/-- The items at an indentation, and the lines behind them. -/
def blockItems : Nat → Nat → List BlockLine → Option (List Value × List BlockLine)
  | 0, _, _ => none
  | _ + 1, _, [] => some ([], [])
  | fuel + 1, indent, line :: rest =>
    if line.indent < indent then some ([], line :: rest)
    else if line.indent > indent then none
    else match itemText? line.text with
      | none => some ([], line :: rest)
      | some (width, text) => do
        let (item, after) ←
          if text.isEmpty then nestedValue fuel (indent + 1) rest
          else blockValue fuel (⟨indent + width, text⟩ :: rest)
        let (items, tail) ← blockItems fuel indent after
        some (item :: items, tail)

/-- The entries at an indentation, added to those before them, and the lines behind them. -/
def blockEntries : Nat → Nat → List (String × Value) → List BlockLine →
    Option (List (String × Value) × List BlockLine)
  | 0, _, _, _ => none
  | _ + 1, _, entries, [] => some (entries, [])
  | fuel + 1, indent, entries, line :: rest =>
    if line.indent < indent then some (entries, line :: rest)
    else if line.indent > indent then none
    else do
      let (key, text) ← entryText? line.text
      if text.isEmpty then
        let isList := match rest with
          | next :: _ => next.indent == indent && (itemText? next.text).isSome
          | [] => false
        let (value, after) ← nestedValue fuel (if isList then indent else indent + 1) rest
        blockEntries fuel indent (putPair key value entries) after
      else
        let value ← lineValue text
        blockEntries fuel indent (putPair key value entries) rest

/-- The value on lines that are indented at least so much; null if there are none. -/
def nestedValue : Nat → Nat → List BlockLine → Option (Value × List BlockLine)
  | 0, _, _ => none
  | _ + 1, _, [] => some (.null, [])
  | fuel + 1, least, line :: rest =>
    if least ≤ line.indent then blockValue fuel (line :: rest)
    else some (.null, line :: rest)

end

/-- Reads a document. -/
def Value.ofText? (text : String) : Option Value :=
  let s := text.toList
  match wholeFlow s with
  | some value => some value
  | none =>
    let found := blockLines s
    match blockValue (4 * s.length + 4) found with
    | some (value, []) => some value
    | _ => none

end AdvisoryFeed.Config
