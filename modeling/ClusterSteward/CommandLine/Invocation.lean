import ClusterSteward.CommandLine.Grammar
import ClusterSteward.Migration.Topology
import ClusterSteward.Text.Decimal
import ClusterSteward.Tool.Configuration

/-!
# Invocations

A command line asks for one command, and says how the admin tool is run and which node it talks to.
The general options may stand before the command and after it; after it they count more. Some of
them may be set by environment variables instead, which count least.
-/

namespace ClusterSteward.CommandLine

/-- What a command line asks for. -/
inductive Command where
  | create (addresses : List String) (replicas : Nat)
  | nodes
  | info
  | addNode (added : Endpoint)
  | forget (id : String)
  | delete (id : String)
  | replicate (masterId : String)
  | rebalance
  | reshard (plan : Plan)
  | spread
  | empty (id : String)
  | merge (target source : String)
  deriving DecidableEq, Repr

/-- A command, with the configuration of the tool and the node to talk to. -/
structure Invocation where
  configuration : Configuration
  endpoint : Endpoint
  command : Command
  deriving DecidableEq, Repr

/-- The number below `limit` that an argument writes. A sign may precede the digits. -/
def readNumber (limit : Nat) (argument : String) : Option Nat :=
  match argument.toList with
  | '-' :: digits =>
      if digits.isEmpty then none else (Text.digitsValue? digits).filter (· = 0)
  | text => Text.readBelow limit text

/-- Whether an argument writes a port number. -/
def isPort (argument : String) : Bool :=
  (readNumber UInt16.size argument).isSome

/-- Whether an argument writes a count. -/
def isCount (argument : String) : Bool :=
  (readNumber UInt32.size argument).isSome

/-- The general options. -/
def generalOptions : List OptionSpec :=
  [{ long := "cli", accepts := fun value ↦ (ToolName.parse value).isOk },
    { long := "cli-path", accepts := fun value ↦ !value.isEmpty },
    { long := "password" },
    { long := "host" },
    { long := "port", short := some 'p', accepts := isPort },
    { long := "log-format", accepts := fun value ↦ value = "json" ∨ value = "text" }]

/-- The environment variable that may set a general option. -/
def variableOf : String → Option String
  | "cli" => some "KEYCL_CLI"
  | "cli-path" => some "KEYCL_CLI_PATH"
  | "password" => some "KEYCL_PASSWORD"
  | _ => none

/-- The environment variables that may set general options. -/
def variableNames : List String :=
  generalOptions.filterMap fun option ↦ variableOf option.long

/-- The names of the commands. -/
def commandNames : List String :=
  ["create", "nodes", "info", "add-node", "forget", "delete", "replicate", "rebalance", "reshard",
    "reshard-all", "except", "merge"]

/-- The command that explains the others. -/
def helpCommand : String :=
  "help"

/-- Whether the arguments behind the command that explains the others name at most one command. -/
def helpFits : List String → Bool
  | [] => true
  | [name] => name = helpCommand || commandNames.contains name
  | _ => false

/-- The grammar in front of the command. -/
def outerGrammar : Grammar where
  options := generalOptions
  hasVersion := true
  places := some 0
  commands := helpCommand :: commandNames

/-- The options of a command, and the number of its positional values if it is bounded. -/
def commandParameters : String → List OptionSpec × Option Nat
  | "create" => ([{ long := "replicas", accepts := isCount }], none)
  | "add-node" => ([{ long := "new-host" }, { long := "new-port", accepts := isPort }], some 0)
  | "forget" => ([], some 1)
  | "delete" => ([], some 1)
  | "replicate" => ([], some 1)
  | "reshard" =>
      ([{ long := "to" }, { long := "slots", accepts := isCount }, { long := "from" }], some 0)
  | "except" => ([], some 1)
  | "merge" => ([{ long := "target" }, { long := "source" }], some 0)
  | _ => ([], some 0)

/-- The grammar behind a command. -/
def innerGrammar (command : String) : Grammar where
  options := generalOptions ++ (commandParameters command).1
  hasVersion := false
  places := (commandParameters command).2
  commands := []

/-- The number of ports that an accepted argument stands for. -/
def portOf (argument : String) : UInt16 :=
  UInt16.ofNat ((readNumber UInt16.size argument).getD 0)

/-- The count that an accepted argument stands for. -/
def countOf (argument : String) : Nat :=
  (readNumber UInt32.size argument).getD 0

/-- The command with its parameters, if they are complete. -/
def commandOf? (name : String) (given : Given) : Option Command :=
  match name with
  | "create" =>
      if given.positionals.isEmpty then none
      else some (.create given.positionals (((given.value? "replicas").map countOf).getD 0))
  | "nodes" => some .nodes
  | "info" => some .info
  | "add-node" => do
      let host ← given.value? "new-host"
      let port ← given.value? "new-port"
      return .addNode ⟨host, portOf port⟩
  | "forget" => given.positionals.head?.map .forget
  | "delete" => given.positionals.head?.map .delete
  | "replicate" => given.positionals.head?.map .replicate
  | "rebalance" => some .rebalance
  | "reshard" => do
      let target ← given.value? "to"
      let count ← given.value? "slots"
      return .reshard ⟨target, .parse ((given.value? "from").getD Source.allWord), countOf count⟩
  | "reshard-all" => some .spread
  | "except" => given.positionals.head?.map .empty
  | "merge" => do
      let target ← given.value? "target"
      let source ← given.value? "source"
      return .merge target source
  | _ => none

/-- What the environment sets a general option to. -/
def fromVariables (settings : List (String × String)) (long : String) : Option String :=
  (variableOf long).bind fun name ↦ settings.lookup name

/-- Whether every variable that stands in for an option missing on one level is acceptable. -/
def variablesFit (settings : List (String × String)) (outer inner : Given) : Bool :=
  generalOptions.all fun option ↦
    -- a level that gives the option itself does not consult the variable
    if (outer.value? option.long).isSome && (inner.value? option.long).isSome then true
    else
      match fromVariables settings option.long with
      | some value => option.accepts value
      | none => true

/-- The value of a general option. -/
def generalValue? (settings : List (String × String)) (outer inner : Given) (long : String) :
    Option String :=
  inner.value? long <|> outer.value? long <|> fromVariables settings long

/-- The configuration of the tool. -/
def configurationOf (value? : String → Option String) : Configuration :=
  { name := match (value? "cli").map ToolName.parse with
      | some (.ok name) => name
      | _ => .valkey
    path := value? "cli-path"
    password := (value? "password").filter (!·.isEmpty) }

/-- The node to talk to. -/
def endpointOf (value? : String → Option String) : Endpoint :=
  ⟨(value? "host").getD "127.0.0.1", ((value? "port").map portOf).getD 6379⟩

/-- Read the arguments behind a command. -/
def readCommand (settings : List (String × String)) (outer : Given) (name : String)
    (arguments : List String) : Except Stop Invocation := do
  let inner ← (innerGrammar name).read .free {} arguments
  let some command := commandOf? name inner | throw .usage
  if !variablesFit settings outer inner then throw .usage
  let value? := generalValue? settings outer inner
  return ⟨configurationOf value?, endpointOf value?, command⟩

/-- Read a command line, given the environment variables by their names. -/
def readInvocation (arguments : List String) (settings : List (String × String)) :
    Except Stop Invocation := do
  let outer ← outerGrammar.read .free {} arguments
  match outer.command with
  | none => throw .usage
  | some (name, arguments) =>
      if name = helpCommand then
        throw (if helpFits arguments then .help else .usage)
      else readCommand settings outer name arguments

end ClusterSteward.CommandLine
