import Wiring.CommandLine.Arguments
import Wiring.Lifecycle

/-!
The commands of the program, and the arguments that give them.
-/

namespace Wiring.CommandLine

structure TargetsCommand where
  topology : String
  source : String
  requirement : String
  target : Option String := none
  resolverUrl : Option String := none
  deriving DecidableEq, Repr

structure RelationshipCommand where
  topology : String
  source : String
  requirement : String
  target : Option String := none
  capability : Option String := none
  type : Option String := none
  name : Option String := none
  resolverUrl : Option String := none
  deriving DecidableEq, Repr

structure StateCommand where
  topology : String
  node : String
  state : LifecycleState
  deriving DecidableEq, Repr

inductive Command where
  /-- Lists the targets for a requirement. -/
  | targets (command : TargetsCommand)
  /-- Makes a relationship. -/
  | relationship (command : RelationshipCommand)
  /-- Selects a state of a node template. -/
  | state (command : StateCommand)
  deriving DecidableEq, Repr

def Command.path : Command → String
  | .targets command => command.topology
  | .relationship command => command.topology
  | .state command => command.topology

def topologyFlag : Flag where
  name := "topology"
  letter := 't'
  required := true
  accepts path := path != ""

def sourceFlags : List Flag :=
  [topologyFlag, { name := "source", letter := 's', required := true },
   { name := "requirement", letter := 'r', required := true }]

def targetsFlags : List Flag :=
  sourceFlags ++ [{ name := "target" }, { name := "resolver-url" }]

def relationshipFlags : List Flag :=
  sourceFlags ++
    [{ name := "target" }, { name := "capability" }, { name := "type" }, { name := "name" },
     { name := "resolver-url" }]

def stateFlags : List Flag :=
  [topologyFlag, { name := "node", letter := 'n', required := true },
   { name := "state", required := true
     accepts := fun word => (LifecycleState.ofWord? word).isSome }]

def ofUsage : Option α → Except Stop α
  | some value => .ok value
  | none => .error .usage

def parseTargets (arguments : List String) : Except Stop Command := do
  let values ← collect targetsFlags none [] arguments
  return .targets {
    topology := ← ofUsage (values.lookup "topology")
    source := ← ofUsage (values.lookup "source")
    requirement := ← ofUsage (values.lookup "requirement")
    target := values.lookup "target"
    resolverUrl := values.lookup "resolver-url" }

def parseRelationship (arguments : List String) : Except Stop Command := do
  let values ← collect relationshipFlags none [] arguments
  return .relationship {
    topology := ← ofUsage (values.lookup "topology")
    source := ← ofUsage (values.lookup "source")
    requirement := ← ofUsage (values.lookup "requirement")
    target := values.lookup "target"
    capability := values.lookup "capability"
    type := values.lookup "type"
    name := values.lookup "name"
    resolverUrl := values.lookup "resolver-url" }

def parseState (arguments : List String) : Except Stop Command := do
  let values ← collect stateFlags none [] arguments
  return .state {
    topology := ← ofUsage (values.lookup "topology")
    node := ← ofUsage (values.lookup "node")
    state := ← ofUsage ((values.lookup "state").bind LifecycleState.ofWord?) }

def commandNames : List String := ["targets", "relationship", "state", "help"]

def parse : List String → Except Stop Command
  | [] => .error .usage
  | "targets" :: rest => parseTargets rest
  | "relationship" :: rest => parseRelationship rest
  | "state" :: rest => parseState rest
  | ["help"] => .error .help
  | ["help", name] => .error (if commandNames.contains name then .help else .usage)
  | first :: _ =>
      match Shape.of first with
      | .long "help" none | .short 'h' _ => .error .help
      | .long "version" none | .short 'V' _ => .error .version
      | _ => .error .usage

end Wiring.CommandLine
