import ClusterSteward.Text.Field

/-!
# Argument grammar

How a list of arguments is read: options with a value, as `--name value`, `--name=value` or
`-n value`, positional values, and at most one command that takes over the rest. After `--` every
argument is positional. Reading stops at the first argument that asks for help or for the version,
and at the first that does not fit.
-/

namespace ClusterSteward.CommandLine

/-- An option that takes a value. -/
structure OptionSpec where
  long : String
  short : Option Char := none
  accepts : String → Bool := fun _ ↦ true

/-- What may be given on one level of a command line. `places` bounds the number of positional
values, if it is bounded. -/
structure Grammar where
  options : List OptionSpec
  hasVersion : Bool
  places : Option Nat
  commands : List String

/-- Why nothing is run. -/
inductive Stop where
  | usage
  | help
  | version
  deriving DecidableEq, Repr

/-- What was given: the values of options by their long names, the positional values, and the
command with the arguments after it. -/
structure Given where
  options : List (String × String) := []
  positionals : List String := []
  command : Option (String × List String) := none
  deriving DecidableEq, Repr

/-- The value of the option with the given long name. -/
def Given.value? (given : Given) (long : String) : Option String :=
  given.options.lookup long

/-- Where reading stands: at any argument, at the value of an option, or after `--`. -/
inductive Position where
  | free
  | awaiting (option : OptionSpec)
  | trailing

namespace Grammar

/-- Take the value of an option, which must be acceptable and the only one. -/
def takeOption (given : Given) (option : OptionSpec) (value : String) : Except Stop Given :=
  if (given.value? option.long).isSome || !option.accepts value then .error .usage
  else .ok { given with options := given.options ++ [(option.long, value)] }

/-- Take a positional value, for which there must be a place. -/
def takePositional (grammar : Grammar) (given : Given) (value : String) : Except Stop Given :=
  match grammar.places with
  | some places =>
      if given.positionals.length < places then
        .ok { given with positionals := given.positionals ++ [value] }
      else .error .usage
  | none => .ok { given with positionals := given.positionals ++ [value] }

/-- Whether an argument is an option by its form. -/
def isOption (argument : String) : Bool :=
  match argument.toList with
  | '-' :: _ :: _ => true
  | _ => false

/-- The option named by a long argument without its dashes, and its value if that is attached. -/
def readLong (grammar : Grammar) (text : List Char) :
    Except Stop (OptionSpec × Option String) :=
  let (name, value) := match Text.cut '=' text with
    | some (name, value) => (String.ofList name, some (String.ofList value))
    | none => (String.ofList text, none)
  match grammar.options.find? (·.long = name) with
  | some option => .ok (option, value)
  | none =>
      if value.isSome then .error .usage
      else if name = "help" then .error .help
      else if name = "version" ∧ grammar.hasVersion then .error .version
      else .error .usage

/-- The option named by the first letter of a short argument, and its value if that is attached. -/
def readShort (grammar : Grammar) (letter : Char) (text : List Char) :
    Except Stop (OptionSpec × Option String) :=
  match grammar.options.find? (·.short = some letter) with
  | some option =>
      if text.isEmpty then .ok (option, none)
      else .ok (option, some (String.ofList (Text.dropOpening ['='] text)))
  | none =>
      if letter = 'h' then .error .help
      else if letter = 'V' ∧ grammar.hasVersion then .error .version
      else .error .usage

/-- Read the arguments from a position on. -/
def read (grammar : Grammar) : Position → Given → List String → Except Stop Given
  | .awaiting _, _, [] => .error .usage
  | .awaiting option, given, argument :: arguments =>
      if isOption argument then .error .usage
      else do
        let given ← takeOption given option argument
        read grammar .free given arguments
  | .trailing, given, [] => .ok given
  | .trailing, given, argument :: arguments => do
      let given ← grammar.takePositional given argument
      read grammar .trailing given arguments
  | .free, given, [] => .ok given
  | .free, given, argument :: arguments =>
      -- a command takes over the rest of the arguments, whatever they look like
      if grammar.commands.contains argument then
        .ok { given with command := some (argument, arguments) }
      else do
        match argument.toList with
        | ['-', '-'] => read grammar .trailing given arguments
        | '-' :: '-' :: text =>
            match ← grammar.readLong text with
            | (option, some value) =>
                let given ← takeOption given option value
                read grammar .free given arguments
            | (option, none) => read grammar (.awaiting option) given arguments
        | '-' :: letter :: text =>
            match ← grammar.readShort letter text with
            | (option, some value) =>
                let given ← takeOption given option value
                read grammar .free given arguments
            | (option, none) => read grammar (.awaiting option) given arguments
        | _ =>
            let given ← grammar.takePositional given argument
            read grammar .free given arguments

end Grammar

end ClusterSteward.CommandLine
