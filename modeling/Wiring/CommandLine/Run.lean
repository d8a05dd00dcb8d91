import Wiring.CommandLine.Command
import Wiring.Document.Flow
import Wiring.TopologyFile

/-!
What a command does with the content of its topology file: what it writes, and
the code it ends with. The code is 0 for a result, 1 for an error and 2 for
arguments that make no sense and for a wizard that was not finished. The dialog
of a command is called after the command. What the program logs goes to the same
stream as its documents, if logging is on.
-/

namespace Wiring.CommandLine

/-- What is logged on the way, without what belongs to one run only, such as its time. -/
inductive LogEvent where
  | loaded (topology : String) (templates : Nat)
  | resolvingRemotely (url : String)
  | found (targets : Nat) (source requirement : String)
  | opened (source requirement : String)
  | resolutionFailed (message : String)
  | continuing (error : FlowError)
  | resolved (step targets : Nat)
  | incomplete
  | created (name type target : String)
  | cancelled
  | selected (node : String) (state : LifecycleState)
  deriving DecidableEq, Repr

structure Report where
  exitCode : UInt8
  log : List LogEvent := []
  output : String := ""
  error : String := ""
  deriving DecidableEq, Repr

/-- All that is written to standard output, given what logging writes of the events. No event comes
after the output. -/
def Report.stdout (report : Report) (written : List LogEvent → String) : String :=
  written report.log ++ report.output

/-- Logging that is switched off. -/
def unlogged (_ : List LogEvent) : String := ""

def Report.after (report : Report) (events : List LogEvent) : Report :=
  { report with log := events ++ report.log }

def failure (message : String) : Report where
  exitCode := 1
  error := s!"Error: {message}\n"

def printed (codec : Document.Codec α) (value : α) : String :=
  codec.encodeIndented value ++ "\n"

def resolverFor : Option String → Resolver
  | none => .inProcess
  | some url => .remote url

def resolverEvents (url : Option String) : List LogEvent :=
  url.toList.map .resolvingRemotely

def withTopology (content : Option ByteArray) (path : String) (use : Topology → Report) : Report :=
  match TopologyFile.load content with
  | .error error => failure (error.headline path)
  | .ok topology =>
      (use topology).after [.loaded topology.id topology.nodeTemplates.entries.length]

def withScope (content : Option ByteArray) (path source requirement : String)
    (use : Topology → Scope → Report) : Report :=
  withTopology content path fun topology =>
    match Scope.ofRequirement topology source requirement with
    | .error error => failure error.message
    | .ok scope => use topology scope

def TargetsCommand.run (command : TargetsCommand) (content : Option ByteArray) : Report :=
  withScope content command.topology command.source command.requirement fun topology scope =>
    let query := { scope with preselected := command.target }.query topology
    let report : Report :=
      match (resolverFor command.resolverUrl).answer query with
      | .resolved resolved =>
          { exitCode := 0
            log := [.found resolved.targets.length command.source command.requirement]
            output := printed Document.resolvedTargets resolved }
      | .failed contexts => failure (contexts.headD "")
    report.after (resolverEvents command.resolverUrl)

namespace RelationshipCommand

def alreadySelected (command : RelationshipCommand) (target : String) (wizard : Wizard) : Bool :=
  wizard.data.target == some target &&
    (command.capability.isNone || wizard.data.targetedCapabilityName == command.capability)

def chooseType (command : RelationshipCommand) (topology : Topology) (wizard : Wizard) :
    Except FlowError Wizard :=
  match command.type with
  | none => .ok wizard
  | some id => wizard.selectRelationship (relationshipTypeOf topology.relationshipTypes id)

def chooseTarget (command : RelationshipCommand) (wizard : Wizard) : Except FlowError Wizard :=
  match command.target with
  | none => .ok wizard
  | some target =>
      if command.alreadySelected target wizard then .ok wizard
      else wizard.selectTarget target command.capability

def giveName (command : RelationshipCommand) (wizard : Wizard) : Except FlowError Wizard :=
  match command.name with
  | none => .ok wizard
  | some name => wizard.setName name

def resolution (command : RelationshipCommand) (topology : Topology) (scope : Scope) :
    Except FlowError (Wizard × Option (Except FlowError Unit)) := do
  let service := fun query =>
    some (Ending.answered ((resolverFor command.resolverUrl).answer query))
  let launched ← Wizard.launch scope topology service true
  return launched.resolve

def resolutionEvents (command : RelationshipCommand) (topology : Topology) (scope : Scope) :
    List LogEvent :=
  match command.resolution topology scope with
  | .error _ => []
  | .ok (wizard, result) =>
      let failed :=
        match result with
        | some (.error (.resolutionFailed message)) =>
            [.resolutionFailed message, .continuing (.resolutionFailed message)]
        | some (.error error) => [.continuing error]
        | _ => []
      .opened scope.source scope.requirementName :: failed ++
        [.resolved wizard.step wizard.targets.length]

/-- The wizard, led through its steps by the arguments. A failed resolution only leaves it without
targets. -/
def wizard (command : RelationshipCommand) (topology : Topology) (scope : Scope) :
    Except FlowError Wizard := do
  -- Whether the resolution has failed does not matter from here on.
  let (resolved, _) ← command.resolution topology scope
  let typed ← command.chooseType topology resolved
  let targeted ← command.chooseTarget typed
  command.giveName targeted

def dialog (command : RelationshipCommand) (topology : Topology) (scope : Scope) :
    Except FlowError WizardDialog := do
  let wizard ← command.wizard topology scope
  let dialog : WizardDialog := { wizard }
  if wizard.finishDisabled then return dialog.cancel else dialog.finish

def report : Option (Outcome RelationshipDescriptor) → Report
  | none => failure "Wizard ended without an outcome"
  | some (.closed descriptor) =>
      { exitCode := 0
        log := [.created descriptor.name descriptor.relationshipType.elementId
          descriptor.targetNodeId]
        output := printed Document.relationshipOutcome (.closed descriptor) }
  | some (.dismissed reason) =>
      { exitCode := 2
        log := [.incomplete, .cancelled]
        output := printed Document.relationshipOutcome (.dismissed reason) }

def run (command : RelationshipCommand) (content : Option ByteArray) : Report :=
  withScope content command.topology command.source command.requirement fun topology scope =>
    let wanted := { scope with preselected := command.target }
    let ended : Report :=
      match command.dialog topology wanted with
      | .error error => failure (error.message "relationship")
      | .ok dialog => report dialog.modal.outcome
    ended.after (resolverEvents command.resolverUrl ++ command.resolutionEvents topology wanted)

end RelationshipCommand

namespace StateCommand

def dialog (command : StateCommand) (topology : Topology) : Except FlowError StateDialog :=
  StateDialog.submit
    { flow := ((StateFlow.start topology).selectNode command.node).selectState command.state }

def run (command : StateCommand) (content : Option ByteArray) : Report :=
  withTopology content command.topology fun topology =>
    if topology.nodeTemplates.contains command.node then
      match command.dialog topology with
      | .error error => failure (error.message "state")
      | .ok dialog =>
          { exitCode := 0
            log := [.selected command.node command.state]
            output := (dialog.modal.outcome.map (printed Document.stateOutcome)).getD "" }
    else failure ((FlowError.unknownNodeTemplate command.node).message "state")

end StateCommand

def Command.run (command : Command) (content : Option ByteArray) : Report :=
  match command with
  | .targets command => command.run content
  | .relationship command => command.run content
  | .state command => command.run content

def programName : String := "topology-wizard"

def programVersion : String := "0.1.0"

def usageText : String :=
  s!"Usage: {programName} <COMMAND>\n\n" ++
  "Commands:\n" ++
  "  targets       List the valid relationship targets for a requirement\n" ++
  "  relationship  Run the relationship creation wizard\n" ++
  "  state         Select a workflow state of a node template\n" ++
  "  help          Print this message or the help of the given subcommand(s)\n"

def Stop.report : Stop → Report
  | .usage => { exitCode := 2, error := usageText }
  | .help => { exitCode := 0, output := usageText }
  | .version => { exitCode := 0, output := s!"{programName} {programVersion}\n" }

def run (arguments : List String) (contents : String → Option ByteArray) : Report :=
  match parse arguments with
  | .error stop => stop.report
  | .ok command => command.run (contents command.path)

end Wiring.CommandLine
