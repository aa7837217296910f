import AdvisoryFeed.Xml.Markup

/-!
# Document type declarations

The declaration in front of the root element. What it says about attributes is kept: their types and
default values (`Doctype`). A declaration of an entity ends the reading with a refusal of its own
(`Refusal.entity`), as soon as its value is read; anything else that is not well-formed is
`Refusal.malformed`.
-/

namespace AdvisoryFeed.Xml

open AdvisoryFeed.Text

/-- Why a document is refused. -/
inductive Refusal where
  | malformed
  /-- The document declares an entity. -/
  | entity
deriving DecidableEq, Repr

/-- What is declared of an attribute of an element. -/
structure AttributeRule where
  element : List Char
  base : List Char
  /-- The value is any text, of which the blanks count. -/
  anyText : Bool
  default : Option String
deriving DecidableEq, Repr

/-- What a document type declaration leaves behind. -/
structure Doctype where
  rules : List AttributeRule := []
  /-- A part of the declaration is elsewhere and is not read. -/
  partly : Bool := false
  /-- Declarations are still taken in. -/
  active : Bool := true
  /-- The document says that it needs no other part. -/
  standalone : Bool := false
deriving Repr

/-- References to unknown entities may be passed over in attribute values. -/
def Doctype.lenient (doctype : Doctype) : Bool :=
  doctype.partly && !doctype.standalone

/-! ## Words of declarations -/

/-- How often a part of a content model may stand. -/
inductive Repeat where
  | once
  | optional
  | any
  | some
deriving DecidableEq, Repr

/-- A word of a declaration. -/
inductive Word where
  | name (text : List Char)
  /-- A name with a prefix. -/
  | prefixed (text : List Char)
  /-- Characters of names that form no name. -/
  | nameToken (text : List Char)
  /-- A name in a content model with a mark of repetition. -/
  | repeated (text : List Char)
  | hash (text : List Char)
  | literal (text : List Char)
  | percent
  | parameter
  | openParen
  | closeParen (mark : Repeat)
  | bar
  | comma
  | openBracket
  | closeBracket
deriving DecidableEq, Repr

/-- The next word of a declaration, or its end. -/
inductive WordStep where
  | word (word : Word) (rest : List Char)
  | finish (rest : List Char)
  | broken

/-- The text is at its end or goes on with one of the characters. -/
def followedBy (allowed : List Char) (s : List Char) : Bool :=
  match s with
  | [] => true
  | c :: _ => isXmlBlank c || allowed.contains c

/-- Reads a word that starts with a character of names. -/
def scanNameWord (s : List Char) : WordStep :=
  let first := s.takeWhile isNameChar
  let rest := s.dropWhile isNameChar
  let isName := (s.head?.map isNameStart).getD false
  let (word, rest) : Word × List Char :=
    match rest with
    | ':' :: more =>
      let tail := more.takeWhile fun c => isNameChar c || c == ':'
      let rest := more.dropWhile fun c => isNameChar c || c == ':'
      let text := first ++ ':' :: tail
      if isName && !tail.isEmpty && !tail.contains ':' then (.prefixed text, rest)
      else (.nameToken text, rest)
    | _ => if isName then (.name first, rest) else (.nameToken first, rest)
  match rest, word with
  | c :: more, .nameToken _ =>
    if followedBy ['>', ')', ',', '|', '[', '%'] (c :: more) then .word word rest else .broken
  | c :: more, .name text =>
    if c == '?' || c == '*' || c == '+' then .word (.repeated text) more
    else if followedBy ['>', ')', ',', '|', '[', '%'] rest then .word word rest else .broken
  | c :: more, .prefixed text =>
    if c == '?' || c == '*' || c == '+' then .word (.repeated text) more
    else if followedBy ['>', ')', ',', '|', '[', '%'] rest then .word word rest else .broken
  | _, _ => .word word rest

/-- Reads the next word of a declaration. -/
def scanWord (s : List Char) : WordStep :=
  match skipBlanks s with
  | [] => .broken
  | '>' :: rest => .finish rest
  | '[' :: rest => .word .openBracket rest
  | ']' :: rest => .word .closeBracket rest
  | '(' :: rest => .word .openParen rest
  | ',' :: rest => .word .comma rest
  | '|' :: rest => .word .bar rest
  | ')' :: '*' :: rest => .word (.closeParen .any) rest
  | ')' :: '?' :: rest => .word (.closeParen .optional) rest
  | ')' :: '+' :: rest => .word (.closeParen .some) rest
  | ')' :: rest =>
    if followedBy ['>', ',', '|', ')'] rest then .word (.closeParen .once) rest else .broken
  | '%' :: rest =>
    match scanName rest with
    | some (_, ';' :: rest) => .word .parameter rest
    | some _ => .broken
    | none =>
      if rest.isEmpty then .broken
      else if followedBy ['%'] rest then .word .percent rest else .broken
  | '#' :: rest =>
    match scanName rest with
    | some (name, rest) =>
      if followedBy [')', '>', '%', '|'] rest then .word (.hash name) rest else .broken
    | none => .broken
  | c :: rest =>
    if c == '\x22' || c == '\x27' then
      match scanUntil [c] rest with
      | some (text, rest) =>
        if followedBy ['>', '%', '['] rest then .word (.literal text) rest else .broken
      | none => .broken
    else if isNameChar c || c == ':' then scanNameWord (c :: rest)
    else .broken

/-- The words of a declaration, and the text behind it if it ends. -/
def scanWords : Nat → List Char → List Word × Option (List Char)
  | 0, _ => ([], none)
  | fuel + 1, s =>
    match scanWord s with
    | .broken => ([], none)
    | .finish rest => ([], some rest)
    | .word word rest =>
      let (words, finish) := scanWords fuel rest
      (word :: words, finish)

/-! ## Declarations of entities -/

/-- A character that may stand in a public identifier. -/
def isPublicChar (c : Char) : Bool :=
  c.isAlphanum || " \n\r-'()+,./:=?;!*#@$_%".toList.contains c

/-- The name of an entity that every document knows, which may be declared again. -/
def isPredefined (name : List Char) : Bool :=
  (predefined? name).isSome

/-- Whether the words of a declaration, of which the end is read if `ended` holds, declare an
entity. -/
def declaresEntity (ended : Bool) : List Word → Bool
  | .percent :: .name _ :: definition => defines false definition
  | .name name :: definition => !isPredefined name && defines true definition
  | _ => false
where
  /-- Whether the words give the entity a value or a place, in a notation only if `notated`
  holds. -/
  defines (notated : Bool) : List Word → Bool
    | .literal _ :: _ => true
    | .name kind :: .literal code :: .literal _ :: more =>
      kind = "PUBLIC".toList && code.all isPublicChar && placed notated more
    | .name kind :: .literal _ :: more => kind = "SYSTEM".toList && placed notated more
    | _ => false
  /-- Whether the words behind the place of an entity complete it. -/
  placed (notated : Bool) : List Word → Bool
    | [] => ended
    | .name kind :: .name _ :: _ => notated && kind = "NDATA".toList
    | _ => false

/-- The value of an entity is well-formed. -/
def isEntityValue (text : List Char) : Bool :=
  !text.contains '%' && (splitAll '&' text).tail.all fun piece =>
    match splitFirst [';'] piece with
    | some (reference, _) => (reference? true reference).isSome
    | none => false

/-- The words form a declaration of an entity, of which the value is looked at only if `active`
holds. -/
def isEntityDeclaration (active : Bool) : List Word → Bool
  | .percent :: .name _ :: definition => isDefinition false definition
  | .name _ :: definition => isDefinition true definition
  | _ => false
where
  /-- The words give an entity a value or a place, in a notation only if `notated` holds. -/
  isDefinition (notated : Bool) : List Word → Bool
    | [.literal value] => !active || isEntityValue value
    | .name kind :: .literal code :: .literal _ :: more =>
      kind = "PUBLIC".toList && code.all isPublicChar && isPlaceEnd notated more
    | .name kind :: .literal _ :: more => kind = "SYSTEM".toList && isPlaceEnd notated more
    | _ => false
  /-- Nothing, or the notation of an entity. -/
  isPlaceEnd (notated : Bool) : List Word → Bool
    | [] => true
    | [.name kind, .name _] => notated && kind = "NDATA".toList
    | _ => false

/-! ## Declarations of elements, notations and attributes -/

/-- The words form a content model, read inside parentheses of which each is connected by bars
(`true`), by commas (`false`), or not yet. `wantsPart` says that a part must come next. -/
def isModel : List (Option Bool) → Bool → List Word → Bool
  | [], wantsPart, words => !wantsPart && words.isEmpty
  | connectors, true, .openParen :: words => isModel (none :: connectors) true words
  | connectors, true, word :: words =>
    match word with
    | .name _ | .prefixed _ | .repeated _ => isModel connectors false words
    | _ => false
  | connector :: connectors, false, word :: words =>
    match word with
    | .closeParen _ => isModel connectors false words
    | .bar => connector != some false && isModel (some true :: connectors) true words
    | .comma => connector != some true && isModel (some false :: connectors) true words
    | _ => false
  | _ :: _, _, [] => false

/-- The words form the names of mixed content behind its first word. -/
def isMixed : List Word → Bool
  | [.closeParen .any] => true
  | .bar :: .name _ :: words => isMixed words
  | .bar :: .prefixed _ :: words => isMixed words
  | _ => false

/-- The word is a name with or without a prefix. -/
def Word.nameText? : Word → Option (List Char)
  | .name text => some text
  | .prefixed text => some text
  | _ => none

/-- The words form a declaration of an element. -/
def isElementDeclaration : List Word → Bool
  | [name, .name kind] =>
    name.nameText?.isSome && (kind = "EMPTY".toList || kind = "ANY".toList)
  | name :: .openParen :: .hash kind :: words =>
    name.nameText?.isSome && kind = "PCDATA".toList &&
      (words = [.closeParen .once] || isMixed words)
  | name :: .openParen :: words => name.nameText?.isSome && isModel [none] true words
  | _ => false

/-- The words form a declaration of a notation. -/
def isNotationDeclaration : List Word → Bool
  | [.name _, .name kind, .literal text] =>
    kind = "SYSTEM".toList || (kind = "PUBLIC".toList && text.all isPublicChar)
  | [.name _, .name kind, .literal text, .literal _] =>
    kind = "PUBLIC".toList && text.all isPublicChar
  | _ => false

/-- Reads the alternatives of an attribute behind the opening parenthesis; `plain` alternatives are
names only. -/
def alternatives? (plain : Bool) : List Word → Option (List Word)
  | word :: .bar :: words => if isAlternative word then alternatives? plain words else none
  | word :: .closeParen .once :: words => if isAlternative word then some words else none
  | _ => none
where
  /-- The word may be an alternative. -/
  isAlternative : Word → Bool
    | .name _ => true
    | .prefixed _ | .nameToken _ => !plain
    | _ => false

/-- The types of attributes whose values are words. -/
def wordTypes : List String :=
  ["ID", "IDREF", "IDREFS", "ENTITY", "ENTITIES", "NMTOKEN", "NMTOKENS"]

/-- Reads the type of an attribute: whether any text may be its value, and the words behind. -/
def attributeType? : List Word → Option (Bool × List Word)
  | .openParen :: words => (alternatives? false words).map fun rest => (false, rest)
  | .name kind :: .openParen :: words =>
    if kind = "NOTATION".toList then (alternatives? true words).map fun rest => (false, rest)
    else none
  | .name kind :: words =>
    if kind = "CDATA".toList then some (true, words)
    else if wordTypes.contains (String.ofList kind) then some (false, words)
    else none
  | _ => none

/-- Single spaces between the words of a value and none around them. -/
def squeeze (value : String) : String :=
  String.ofList ([' '].intercalate ((splitAll ' ' value.toList).filter fun word => !word.isEmpty))

/-- A value as the type of its attribute wants it. -/
def typedValue (anyText : Bool) (value : String) : String :=
  if anyText then value else squeeze value

/-- Reads the default of an attribute: the literal, if there is one, and the words behind. -/
def attributeDefault? : List Word → Option (Option (List Char) × List Word)
  | .hash kind :: .literal text :: words =>
    if kind = "FIXED".toList then some (some text, words) else none
  | .hash kind :: words =>
    if kind = "IMPLIED".toList || kind = "REQUIRED".toList then some (none, words) else none
  | .literal text :: words => some (some text, words)
  | _ => none

/-- The value of a default, if there is one. -/
def defaultValue? (lenient anyText : Bool) : Option (List Char) → Option (Option String)
  | none => some none
  | some text => (attributeValue? lenient text).map fun value => some (typedValue anyText value)

/-- Takes in a rule, unless there is one for the attribute. -/
def Doctype.addRule (doctype : Doctype) (rule : AttributeRule) : Doctype :=
  if doctype.rules.any fun known => known.element = rule.element && known.base = rule.base then
    doctype
  else { doctype with rules := doctype.rules ++ [rule] }

/-- Takes in the rules of a declaration of attributes, of which the element is read. -/
def Doctype.attributes? (element : List Char) : Nat → Doctype → List Word → Option Doctype
  | _, doctype, [] => some doctype
  | 0, _, _ :: _ => none
  | fuel + 1, doctype, name :: words => do
    let base ← name.nameText?
    let (anyText, words) ← attributeType? words
    let (literal, words) ← attributeDefault? words
    if !doctype.active then Doctype.attributes? element fuel doctype words
    else
      let value ← defaultValue? doctype.lenient anyText literal
      Doctype.attributes? element fuel (doctype.addRule ⟨element, base, anyText, value⟩) words

/-! ## The declaration as a whole -/

/-- Takes in a declaration of the internal part. -/
def Doctype.declare (doctype : Doctype) (kind : List Char) (words : List Word) (ended : Bool) :
    Except Refusal Doctype :=
  if kind = "ENTITY".toList then
    if doctype.active && declaresEntity ended words then .error .entity
    else if ended && isEntityDeclaration doctype.active words then .ok doctype
    else .error .malformed
  else if !ended then .error .malformed
  else if kind = "ELEMENT".toList then
    if isElementDeclaration words then .ok doctype else .error .malformed
  else if kind = "NOTATION".toList then
    if isNotationDeclaration words then .ok doctype else .error .malformed
  else if kind = "ATTLIST".toList then
    match words with
    | name :: words =>
      match name.nameText?.bind fun element =>
        Doctype.attributes? element words.length doctype words with
      | some doctype => .ok doctype
      | none => .error .malformed
    | [] => .error .malformed
  else .error .malformed

/-- A character of the word that opens a declaration. -/
def isKeywordChar (c : Char) : Bool :=
  c.isAlpha || c == '_'

/-- The text behind the opening word of a declaration starts as it may: with a blank or with a
reference to a parameter. -/
def endsKeyword : List Char → Bool
  | '%' :: c :: _ => !isXmlBlank c && c != '%'
  | c :: _ => isXmlBlank c
  | [] => false

/-- Reads the internal part, up to the end of the whole declaration. -/
def Doctype.readInternal : Nat → Doctype → List Char → Except Refusal (Doctype × List Char)
  | 0, _, _ => .error .malformed
  | fuel + 1, doctype, s =>
    match skipBlanks s with
    | ']' :: rest =>
      match skipBlanks rest with
      | '>' :: rest => .ok (doctype, rest)
      | _ => .error .malformed
    | '%' :: rest =>
      match scanName rest with
      | some (_, ';' :: rest) =>
        readInternal fuel { doctype with partly := true, active := doctype.standalone } rest
      | _ => .error .malformed
    | '<' :: '?' :: rest =>
      match scanInstruction rest with
      | some (_, rest) => readInternal fuel doctype rest
      | none => .error .malformed
    | '<' :: '!' :: '-' :: '-' :: rest =>
      match scanComment rest with
      | some rest => readInternal fuel doctype rest
      | none => .error .malformed
    | '<' :: '!' :: rest =>
      let kind := rest.takeWhile isKeywordChar
      let body := rest.dropWhile isKeywordChar
      if !endsKeyword body then .error .malformed
      else
        let (words, finish) := scanWords (body.length + 1) body
        match doctype.declare kind words finish.isSome, finish with
        | .error refusal, _ => .error refusal
        | .ok doctype, some rest => readInternal fuel doctype rest
        | .ok _, none => .error .malformed
    | _ => .error .malformed

/-- Reads a declaration behind its opening word. -/
def Doctype.read (doctype : Doctype) (s : List Char) : Except Refusal (Doctype × List Char) :=
  match scanWord s with
  | .word name rest =>
    if name.nameText?.isNone then .error .malformed
    else match scanWord rest with
      | .finish rest => .ok (doctype, rest)
      | .word .openBracket rest => readInternal (rest.length + 1) doctype rest
      | .word (.name kind) rest =>
        if kind = "SYSTEM".toList then placed rest
        else if kind = "PUBLIC".toList then
          match scanWord rest with
          | .word (.literal text) rest =>
            if text.all isPublicChar then placed rest else .error .malformed
          | _ => .error .malformed
        else .error .malformed
      | _ => .error .malformed
  | _ => .error .malformed
where
  /-- Reads the place of the other part and what follows it. -/
  placed (s : List Char) : Except Refusal (Doctype × List Char) :=
    match scanWord s with
    | .word (.literal _) rest =>
      match scanWord rest with
      | .finish rest => .ok ({ doctype with partly := true }, rest)
      | .word .openBracket rest =>
        readInternal (rest.length + 1) { doctype with partly := true } rest
      | _ => .error .malformed
    | _ => .error .malformed

end AdvisoryFeed.Xml
