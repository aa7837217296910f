import AdvisoryFeed.Xml.Doctype
import AdvisoryFeed.Xml.Element
import AdvisoryFeed.Xml.Encoding

/-!
# Documents

A document is an XML declaration, a document type declaration and a root element, of which only the
last must be there. `readDocument` reads the root element from bytes, with the names expanded by the
namespaces in scope.
-/

namespace AdvisoryFeed.Xml

open AdvisoryFeed.Text

/-! ## Namespaces -/

/-- The namespaces that prefixes stand for, the innermost first. The empty namespace is none. -/
abbrev Scope := List (Option String × String)

/-- The namespace of the prefix that every document knows. -/
def xmlSpace : String := "http://www.w3.org/XML/1998/namespace"

/-- The namespace of declarations of namespaces. -/
def declarationSpace : String := "http://www.w3.org/2000/xmlns/"

/-- The prefixes that every document knows. -/
def Scope.outermost : Scope :=
  [(some "xml", xmlSpace)]

/-- The prefix that an attribute declares, if it declares one. -/
def declaredPrefix? : RawName → Option (Option String)
  | ⟨none, base⟩ => if base = "xmlns" then some none else none
  | ⟨some space, base⟩ => if space = "xmlns" then some (some base) else none

/-- A prefix may stand for a namespace. -/
def mayDeclare (space : Option String) (uri : String) : Bool :=
  space != some "xmlns" && uri != declarationSpace && (space = some "xml" ↔ uri = xmlSpace) &&
    !(uri.isEmpty && space.isSome) && !uri.toList.contains '\x7d'

/-- The namespace of a prefix in scope. -/
def Scope.resolve? (scope : Scope) (space : Option String) : Option (Option String) :=
  match List.lookup space scope, space with
  | some uri, _ => some (if uri.isEmpty then none else some uri)
  | none, none => some none
  | none, some _ => none

/-- The scope inside an element with the attributes. -/
def Scope.enter? (scope : Scope) (attributes : List (RawName × String)) : Option Scope :=
  attributes.foldl (fun acc entry =>
    match declaredPrefix? entry.1 with
    | none => acc
    | some space => acc.bind fun scope =>
      if mayDeclare space entry.2 then some ((space, entry.2) :: scope) else none)
    (some scope)

/-- The expanded name of an attribute; one without a prefix is in no namespace. -/
def Scope.attributeName? (scope : Scope) (name : RawName) : Option Name :=
  match name.space with
  | none => some ⟨none, name.base⟩
  | some space => (scope.resolve? (some space)).map fun uri => ⟨uri, name.base⟩

/-- The expanded names and values of the attributes that declare no namespaces. -/
def Scope.attributes? (scope : Scope) (attributes : List (RawName × String)) :
    Option (List (Name × String)) :=
  (attributes.filter fun entry => (declaredPrefix? entry.1).isNone).mapM fun entry =>
    (scope.attributeName? entry.1).map fun name => (name, entry.2)

/-! ## Elements -/

/-- The text of a name. -/
def RawName.text (name : RawName) : List Char :=
  match name.space with
  | none => name.base.toList
  | some space => space.toList ++ ':' :: name.base.toList

/-- The attributes of an element with the rules for them: values as their types want them, and the
default values of the attributes that are not written. -/
def applyRules (rules : List AttributeRule) (element : RawName)
    (attributes : List (RawName × String)) : List (RawName × String) :=
  let rules := rules.filter fun rule => rule.element = element.text
  let written := attributes.map fun entry =>
    match rules.find? fun rule => rule.base = entry.1.text with
    | some rule => (entry.1, typedValue rule.anyText entry.2)
    | none => entry
  let missing := rules.filterMap fun rule =>
    if attributes.any fun entry => entry.1.text = rule.base then none
    else match rule.default, scanRawName rule.base with
      | some value, some (name, []) => some (name, value)
      | _, _ => none
  written ++ missing

/-- No item stands twice in a list. -/
def distinct {α : Type} [BEq α] : List α → Bool
  | [] => true
  | x :: xs => !xs.contains x && distinct xs

/-- An element of which the content is being read. -/
structure OpenElement where
  raw : RawName
  name : Name
  attributes : List (Name × String)
  scope : Scope
  /-- The text in front of the first child, so far. -/
  text : List Char
  /-- The children so far, the last one first. -/
  children : List Element

/-- Opens an element inside a scope. -/
def openElement? (rules : List AttributeRule) (scope : Scope) (raw : RawName)
    (attributes : List (RawName × String)) : Option OpenElement := do
  let attributes := applyRules rules raw attributes
  let scope ← scope.enter? attributes
  let space ← scope.resolve? raw.space
  let expanded ← scope.attributes? attributes
  if distinct (attributes.map Prod.fst) && distinct (expanded.map Prod.fst) then
    some ⟨raw, ⟨space, raw.base⟩, expanded, scope, [], []⟩
  else none

/-- The element, once all its content is read. -/
def OpenElement.close (element : OpenElement) : Element :=
  .node element.name element.attributes (String.ofList element.text) element.children.reverse

/-- Adds text in front of the first child; other text is not kept. -/
def OpenElement.addText (element : OpenElement) (text : List Char) : OpenElement :=
  if element.children.isEmpty then { element with text := element.text ++ text } else element

/-- How far the content of a document is read. -/
inductive Reading where
  /-- No element is read yet. -/
  | start
  /-- The innermost open element and the ones around it. -/
  | inside (inner : OpenElement) (outer : List OpenElement)
  /-- The root element is closed. -/
  | done (root : Element)

/-- Adds a closed element to the elements around it. -/
def Reading.add (child : Element) : List OpenElement → Reading
  | [] => .done child
  | inner :: outer => .inside { inner with children := child :: inner.children } outer

/-- Reads one more token. -/
def Reading.step? (rules : List AttributeRule) : Reading → Token → Option Reading
  | .start, .opening raw attributes closed => opened .outermost [] raw attributes closed
  | .start, _ => none
  | .inside inner outer, .opening raw attributes closed =>
    opened inner.scope (inner :: outer) raw attributes closed
  | .inside inner outer, .closing raw =>
    if inner.raw = raw then some (Reading.add inner.close outer) else none
  | .inside inner outer, .text content _ => some (.inside (inner.addText content) outer)
  | .done root, .text content plain =>
    if plain && content.all isXmlBlank then some (.done root) else none
  | .done _, _ => none
where
  /-- Opens an element inside others, and closes it if the tag does. -/
  opened (scope : Scope) (outer : List OpenElement) (raw : RawName)
      (attributes : List (RawName × String)) (closed : Bool) : Option Reading :=
    (openElement? rules scope raw attributes).map fun inner =>
      if closed then Reading.add inner.close outer else .inside inner outer

/-- The root element that tokens make up. -/
def rootOf? (rules : List AttributeRule) (tokens : List Token) : Option Element :=
  match tokens.foldlM (Reading.step? rules) Reading.start with
  | some (.done root) => some root
  | _ => none

/-! ## The front of a document -/

/-- What an XML declaration says. -/
structure Declaration where
  encoding : Option String
  standalone : Bool
deriving DecidableEq, Repr

/-- Reads one item of an XML declaration, in front of which a blank must stand: its name and value,
and the text behind it. -/
def declarationItem? (s : List Char) : Option (String × List Char × List Char) := do
  if !startsBlank s then none
  else
    let front := skipBlanks s
    let name := front.takeWhile Char.isAlpha
    let s ← afterMarker? ['='] (skipBlanks (front.dropWhile Char.isAlpha))
    let (value, s) ← scanQuoted (skipBlanks s)
    if value.all fun c => c.isAlphanum || c == '.' || c == '-' || c == '_' then
      some (String.ofList name, value, s)
    else none

/-- Reads the items of an XML declaration up to its end. -/
def declarationItems? : Nat → List Char → Option (List (String × List Char) × List Char)
  | 0, _ => none
  | fuel + 1, s =>
    match afterMarker? "?>".toList (skipBlanks s) with
    | some rest => some ([], rest)
    | none => do
      let (name, value, rest) ← declarationItem? s
      let (items, rest) ← declarationItems? fuel rest
      some ((name, value) :: items, rest)

/-- What the items of an XML declaration say: the version, then perhaps the encoding, then perhaps
whether the document stands alone. -/
def Declaration.ofItems? : List (String × List Char) → Option Declaration
  | ("version", _) :: items =>
    match items with
    | [] => some ⟨none, false⟩
    | [("encoding", name)] => (encodingName? name).map fun name => ⟨some name, false⟩
    | [("standalone", answer)] => (answer? answer).map fun alone => ⟨none, alone⟩
    | [("encoding", name), ("standalone", answer)] => do
      some ⟨some (← encodingName? name), ← answer? answer⟩
    | _ => none
  | _ => none
where
  /-- The name of an encoding, which starts with a letter. -/
  encodingName? (s : List Char) : Option String :=
    if (s.head?.map Char.isAlpha).getD false then some (String.ofList s) else none
  /-- The answer to a question. -/
  answer? (s : List Char) : Option Bool :=
    if s = "yes".toList then some true else if s = "no".toList then some false else none

/-- Reads the XML declaration, if there is one, and gives the text behind it. -/
def scanDeclaration (s : List Char) : Option (Option Declaration × List Char) :=
  match afterMarker? "<?xml".toList s with
  | none => some (none, s)
  | some rest =>
    if followedBy ['?'] rest then do
      let (items, rest) ← declarationItems? 5 rest
      some (some (← Declaration.ofItems? items), rest)
    else some (none, s)

/-- Reads what stands in front of the root element. -/
def readProlog (seen : Bool) : Nat → Doctype → List Char → Except Refusal (Doctype × List Char)
  | 0, _, _ => .error .malformed
  | fuel + 1, doctype, s =>
    match skipBlanks s with
    | '<' :: '?' :: rest =>
      match scanInstruction rest with
      | some (_, rest) => readProlog seen fuel doctype rest
      | none => .error .malformed
    | '<' :: '!' :: '-' :: '-' :: rest =>
      match scanComment rest with
      | some rest => readProlog seen fuel doctype rest
      | none => .error .malformed
    | '<' :: '!' :: rest =>
      match afterMarker? "DOCTYPE".toList rest with
      | some (c :: rest) =>
        if seen || !isXmlBlank c then .error .malformed
        else
          match doctype.read rest with
          | .error refusal => .error refusal
          | .ok (doctype, rest) => readProlog true fuel doctype rest
      | _ => .error .malformed
    | front => .ok (doctype, front)

/-- The decoded text of a document, its encoding and what its declaration says. -/
def declaredText? (bytes : List UInt8) : Option (Bool × List Char) := do
  let (encoding, bytes) := Encoding.detect bytes
  let (declaration, rest) ← scanDeclaration (encoding.decode bytes)
  match declaration with
  | none => some (false, rest)
  | some ⟨none, alone⟩ => some (alone, rest)
  | some ⟨some name, alone⟩ =>
    let encoding ← encoding.declared? name
    let (_, rest) ← scanDeclaration (encoding.decode bytes)
    some (alone, rest)

/-- Reads the root element of a document. -/
def readDocument (bytes : List UInt8) : Except Refusal Element :=
  match declaredText? bytes with
  | none => .error .malformed
  | some (alone, text) =>
    let text := foldLineEnds text
    match readProlog false (text.length + 1) { standalone := alone } text with
    | .error refusal => .error refusal
    | .ok (doctype, text) =>
      match (tokens? doctype.lenient (text.length + 1) text).bind (rootOf? doctype.rules) with
      | some root => .ok root
      | none => .error .malformed

end AdvisoryFeed.Xml
