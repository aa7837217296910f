import AdvisoryFeed.Text.Digit
import AdvisoryFeed.Text.Search

/-!
# Arguments

The options of the command: the path of the configuration and the level of the log. An option may be
written by the start of its name, if that is the start of no other one, and its value may stand
behind an equals sign.
-/

namespace AdvisoryFeed.Command

open AdvisoryFeed.Text

/-- The options. -/
inductive Flag where
  | config
  | logLevel
  | help
deriving DecidableEq, Repr

/-- The names of the options. -/
def flagNames : List (List Char × Flag) :=
  [("--config".toList, .config), ("--log-level".toList, .logLevel), ("--help".toList, .help)]

/-- The short name of the option for help. -/
def shortHelp : List Char := ['-', 'h']

/-- The levels of the log. -/
def logLevels : List String :=
  ["DEBUG", "INFO", "WARNING", "ERROR"]

/-- What an argument is. -/
inductive Argument where
  /-- An option, with the value behind the equals sign. -/
  | flag (flag : Flag) (value : Option String)
  /-- Two hyphens, behind which no options stand. -/
  | separator
  /-- What looks like an option and is none. -/
  | unknown
  /-- The start of more than one option. -/
  | ambiguous
  | plain (text : String)
deriving DecidableEq, Repr

/-- A negative number. -/
def isNegative : List Char → Bool
  | '-' :: s =>
    match s.dropWhile isDecimal with
    | [] => !s.isEmpty
    | '.' :: fraction => !fraction.isEmpty && fraction.all isDecimal
    | _ => false
  | _ => false

/-- What an argument that starts with a hyphen and is neither a number nor a name of an option is.
-/
def unnamedArgument (s : List Char) : Argument :=
  if isNegative s || s.contains ' ' then .plain (String.ofList s) else .unknown

/-- What an argument with two hyphens is, given its name and the value behind the equals sign. -/
def longArgument (s name : List Char) (value : Option String) : Argument :=
  match flagNames.lookup name with
  | some flag => .flag flag value
  | none =>
    match flagNames.filter fun entry => name.isPrefixOf entry.1 with
    | [] => unnamedArgument s
    | [entry] => .flag entry.2 value
    | _ => .ambiguous

/-- What follows the letter for help is no value for it. -/
def isWithoutValue (s : List Char) : Bool :=
  (s.dropWhile (· == 'h')).head? != some '='

/-- What an argument is. -/
def Argument.ofText (text : String) : Argument :=
  match text.toList with
  | '-' :: '-' :: rest =>
    if rest.isEmpty then .separator
    else
      let s := '-' :: '-' :: rest
      match splitFirst ['='] s with
      | some (name, value) => longArgument s name (some (String.ofList value))
      | none => longArgument s s none
  | '-' :: c :: rest =>
    let s := '-' :: c :: rest
    if shortHelp.isPrefixOf s then
      .flag .help (if isWithoutValue rest then none else some (String.ofList rest))
    else unnamedArgument s
  | _ => .plain text

/-- What arguments are; those behind two hyphens are no options. -/
def classify : List String → List Argument
  | [] => []
  | text :: rest =>
    match Argument.ofText text with
    | .separator => .separator :: rest.map .plain
    | argument => argument :: classify rest

/-- What the command is asked to do. -/
inductive Request where
  | run (config logLevel : String)
  | help
  /-- The arguments are not understood. -/
  | refused
deriving DecidableEq, Repr

/-- Takes the value of an option into a request. -/
def applyValue (flag : Flag) (value : String) (config logLevel : String) :
    Option (String × String) :=
  match flag with
  | .config => some (value, logLevel)
  | .logLevel => if logLevels.contains value then some (config, value) else none
  | .help => none

/-- Reads arguments from the left. An argument that is no option is refused in the end, `extra` if
there was one; help is given before that. -/
def readArguments (extra : Bool) (config logLevel : String) : List Argument → Request
  | [] => if extra then .refused else .run config logLevel
  | .flag .help none :: _ => .help
  | .flag .help (some _) :: _ => .refused
  | .flag flag (some value) :: rest =>
    match applyValue flag value config logLevel with
    | some (config, logLevel) => readArguments extra config logLevel rest
    | none => .refused
  | .flag flag none :: .plain value :: rest =>
    match applyValue flag value config logLevel with
    | some (config, logLevel) => readArguments extra config logLevel rest
    | none => .refused
  | .flag _ none :: _ => .refused
  | _ :: rest => readArguments true config logLevel rest

/-- The path of the configuration unless another is asked for. -/
def defaultConfig : String := "config.yaml"

/-- The level of the log unless another is asked for. -/
def defaultLevel : String := "INFO"

/-- What arguments ask for. -/
def Request.ofArguments (arguments : List String) : Request :=
  let arguments := classify arguments
  if arguments.contains .ambiguous then .refused
  else readArguments false defaultConfig defaultLevel arguments

end AdvisoryFeed.Command
