import ClusterSteward.Text.Blank
import ClusterSteward.Tool.Error

/-!
# Configuration of the admin tool

Which program is run as the admin tool, and with which credential. The credential is added behind
the arguments of every invocation and shown nowhere.
-/

namespace ClusterSteward

/-- The two admin tools, which understand the same arguments. -/
inductive ToolName where
  | redis
  | valkey
  deriving DecidableEq, Repr, Inhabited

namespace ToolName

/-- The name of the tool's program. -/
def program : ToolName → String
  | redis => "redis-cli"
  | valkey => "valkey-cli"

/-- The tool named by a text: the name of its program, with or without the ending. -/
def parse (text : String) : Except ToolError ToolName :=
  let name := String.ofList (Text.trim text.toList)
  if name = "redis-cli" ∨ name = "redis" then .ok .redis
  else if name = "valkey-cli" ∨ name = "valkey" then .ok .valkey
  else .error (.invalidConfiguration
    ("unknown admin tool '" ++ name ++ "', expected redis-cli or valkey-cli"))

/-- The name of the tool in a description. -/
def description : ToolName → String
  | redis => "Redis"
  | valkey => "Valkey"

end ToolName

/-- Which tool to run, the path of its program if it is not looked up by name, and the credential
if there is one. -/
structure Configuration where
  name : ToolName := .valkey
  path : Option String := none
  password : Option String := none
  deriving DecidableEq, Repr, Inhabited

namespace Configuration

/-- The configuration with the given credential; an empty one is none. -/
def withPassword (configuration : Configuration) (password : String) : Configuration :=
  { configuration with password := if password.isEmpty then none else some password }

/-- The configuration with the given path of the program. -/
def withPath (configuration : Configuration) (path : String) : Configuration :=
  { configuration with path := some path }

/-- The program to run, which is also the command that errors name. -/
def command (configuration : Configuration) : String :=
  configuration.path.getD configuration.name.program

/-- The option before the credential. -/
def passwordOption : String :=
  "-a"

/-- The arguments of a process: the given ones, and behind them the credential. -/
def fullArguments (configuration : Configuration) (arguments : List String) : List String :=
  match configuration.password with
  | none => arguments
  | some password => arguments ++ [passwordOption, password]

/-- What stands in a description in place of the credential. -/
def redacted : String :=
  "\"<redacted>\""

/-- An optional part of a description. -/
def optionText : Option String → String
  | none => "None"
  | some text => "Some(" ++ text ++ ")"

/-- A description of the configuration, without the credential. -/
def description (configuration : Configuration) : String :=
  "ValkeyCliConfig \x7b name: " ++ configuration.name.description ++
    ", binary_path: " ++ optionText (configuration.path.map Text.quoted) ++
    ", password: " ++ optionText (configuration.password.map fun _ ↦ redacted) ++ " \x7d"

/-- A description of the tool that is run by the configuration. -/
def toolDescription (configuration : Configuration) : String :=
  "ValkeyCli \x7b config: " ++ configuration.description ++ " \x7d"

end Configuration

end ClusterSteward
