import AdvisoryFeed.Text.Search

/-!
# Paths

The normal form of a path, and the variables of the environment that are written in one.
-/

namespace AdvisoryFeed.Files

open AdvisoryFeed.Text

/-- The path of the working directory. -/
def hereMark : String := "."

/-- The names in a path, those apart that stand for the directory they are in. -/
def pathNames (path : String) : List (List Char) :=
  (splitAll '/' path.toList).filter fun name => !name.isEmpty && name != hereMark.toList

/-- Names joined to a path. -/
def joinNames (names : List (List Char)) : String :=
  String.ofList (['/'].intercalate names)

/-- The root that a path starts at. Two slashes are a root of their own, and more are one. -/
def rootOf (path : String) : String :=
  match path.toList with
  | '/' :: '/' :: '/' :: _ => "/"
  | '/' :: '/' :: _ => "//"
  | '/' :: _ => "/"
  | _ => ""

/-- A path starts at a root. -/
def isAbsolute (path : String) : Bool :=
  !(rootOf path).isEmpty

/-- The path with the root of another one and some names, in normal form. -/
def underRoot (path : String) (names : List (List Char)) : String :=
  if names.isEmpty && !isAbsolute path then hereMark else rootOf path ++ joinNames names

/-- The normal form of a path. -/
def normalPath (path : String) : String :=
  underRoot path (pathNames path)

/-- The directory that a path is in, in normal form. -/
def parentPath (path : String) : String :=
  underRoot path (pathNames path).dropLast

/-- The path of a file in a directory, both in normal form. -/
def inDirectory (directory name : String) : String :=
  if directory = hereMark then name else directory ++ "/" ++ name

/-- The path itself and those of the directories it is in, in normal form. -/
def pathsUpTo (path : String) : List String :=
  let names := pathNames path
  (List.range names.length).map fun n => underRoot path (names.take (n + 1))

/-- A path leads to the root or the working directory, or upwards from there. -/
def leadsUp (path : String) : Bool :=
  (pathNames path).all fun name => name == ['.', '.']

/-- A character of a variable's name. -/
def isVariableChar (c : Char) : Bool :=
  c.isAlphanum || c == '_'

/-- The name of the variable behind a dollar sign, and the number of characters it takes. -/
def variableAt (s : List Char) : Option (List Char × Nat) :=
  let name := s.takeWhile isVariableChar
  if !name.isEmpty then some (name, name.length)
  else match s with
    | '\x7b' :: rest =>
      let inner := rest.takeWhile (· != '\x7d')
      if inner.length < rest.length then some (inner, inner.length + 2) else none
    | _ => none

/-- The names of the variables that are written in a text. -/
def variablesIn : List Char → List String
  | [] => []
  | c :: s =>
    match c, variableAt s with
    | '$', some (name, _) => String.ofList name :: variablesIn s
    | _, _ => variablesIn s

/-- Replaces variables by their values. The next `n` characters are passed over, and kept if `kept`.
A variable that is not set stays, and values are not searched for variables. -/
def expandFrom (environment : List (String × String)) (kept : Bool) : Nat → List Char → List Char
  | _, [] => []
  | n + 1, c :: s =>
    if kept then c :: expandFrom environment kept n s else expandFrom environment kept n s
  | 0, c :: s =>
    match c, variableAt s with
    | '$', some (name, width) =>
      match environment.lookup (String.ofList name) with
      | some value => value.toList ++ expandFrom environment false width s
      | none => '$' :: expandFrom environment true width s
    | c, _ => c :: expandFrom environment kept 0 s

/-- Replaces the variables in a path by their values. -/
def expandVariables (environment : List (String × String)) (path : String) : String :=
  String.ofList (expandFrom environment true 0 path.toList)

end AdvisoryFeed.Files
