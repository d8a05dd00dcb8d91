import Wiring.FlowError
import Wiring.Naming
import Wiring.Outcome
import Wiring.Resolution

/-!
The wizard that makes a relationship: choose its type, choose the target and one
of its capabilities, confirm the name. The targets on offer are resolved in the
background; their resolution may arrive at any moment, or never.
-/

namespace Wiring

structure RelationshipChoice where
  relationship : Option RelationshipType := none
  target : Option String := none
  targetedCapabilityName : Option String := none
  name : Option String := none
  deriving DecidableEq, Repr, Inhabited

structure RelationshipDescriptor where
  relationshipType : RelationshipType
  targetNodeId : String
  targetedCapabilityId : Option String
  name : String
  deriving DecidableEq, Repr, Inhabited

def RelationshipDescriptor.relationship (descriptor : RelationshipDescriptor)
    (requirementName : String) : Relationship where
  type := descriptor.relationshipType.elementId
  target := descriptor.targetNodeId
  requirementName
  targetedCapabilityName := descriptor.targetedCapabilityId

structure HiddenFilter where
  term : String
  facet : List String
  deriving DecidableEq, Repr, Inhabited

def HiddenFilter.validTargets : String := "validTargets"

def HiddenFilter.accepts (filter : HiddenFilter) (type : RelationshipType) : Bool :=
  filter.term != validTargets || filter.facet.any fun wanted => type.validTargets.contains wanted

inductive WizardStatus where
  | active
  | finished
  | cancelled
  deriving DecidableEq, Repr, Inhabited

inductive WizardPhase where
  | chooseRelationship
  | chooseTarget
  | confirm
  | finished
  | cancelled
  deriving DecidableEq, Repr, Inhabited

inductive Ending where
  | answered (answer : Answer)
  | dropped
  deriving DecidableEq, Repr

/-- A resolution under way; `ending` is nothing if it never ends. -/
structure Pending where
  ending : Option Ending
  arrived : Bool := false
  deriving DecidableEq, Repr

structure Wizard where
  topology : Topology
  scope : Scope
  step : Nat := 1
  data : RelationshipChoice := {}
  targets : List TargetMatch := []
  hiddenFilters : List HiddenFilter := []
  status : WizardStatus := .active
  pending : Option Pending := none
  resolutionError : Option String := none
  deriving DecidableEq, Repr

namespace Wizard

def totalSteps : Nat := 3

def start (scope : Scope) (topology : Topology) : Wizard :=
  { topology, scope }

def launch (scope : Scope) (topology : Topology) (service : TargetQuery → Option Ending)
    (background : Bool) : Except FlowError Wizard :=
  if background then
    .ok { start scope topology with pending := some { ending := service (scope.query topology) } }
  else .error .noRuntime

def closed (wizard : Wizard) : Bool := wizard.status != .active

def resolving (wizard : Wizard) : Bool := wizard.pending.isSome

def phase (wizard : Wizard) : WizardPhase :=
  match wizard.status with
  | .finished => .finished
  | .cancelled => .cancelled
  | .active =>
      match wizard.step with
      | 0 | 1 => .chooseRelationship
      | 2 => .chooseTarget
      | _ => .confirm

def candidates (wizard : Wizard) : List RelationshipType :=
  wizard.topology.relationshipTypes.values.filter fun type =>
    wizard.hiddenFilters.all fun filter => filter.accepts type

def finishDisabled (wizard : Wizard) : Bool :=
  wizard.data.relationship.isNone || wizard.data.target.isNone || wizard.data.name.isNone

def descriptor? (wizard : Wizard) : Option RelationshipDescriptor := do
  return {
    relationshipType := ← wizard.data.relationship
    targetNodeId := ← wizard.data.target
    targetedCapabilityId := wizard.data.targetedCapabilityName
    name := ← wizard.data.name }

def close (wizard : Wizard) (status : WizardStatus) : Wizard :=
  { wizard with status, pending := none }

def finish [Modal μ RelationshipDescriptor] (wizard : Wizard) (modal : μ) :
    Except FlowError (Wizard × μ) :=
  if wizard.closed then .error .flowClosed
  else
    match wizard.descriptor? with
    | none => .error (.incompleteSelection .relationship)
    | some descriptor => .ok (wizard.close .finished, Modal.close modal descriptor)

def cancel [Modal μ RelationshipDescriptor] (wizard : Wizard) (modal : μ) : Wizard × μ :=
  if wizard.closed then (wizard, modal)
  else (wizard.close .cancelled, Modal.dismiss modal cancelReason)

def advance (wizard : Wizard) : Wizard :=
  { wizard with step := wizard.step + 1 }

def refreshName (wizard : Wizard) : Wizard :=
  { wizard with
    data := { wizard.data with
      name := do return defaultName (← wizard.data.relationship) (← wizard.data.target) } }

def selectRelationship (wizard : Wizard) (type : RelationshipType) : Except FlowError Wizard :=
  if wizard.closed then .error .flowClosed
  else
    .ok { wizard with data := { wizard.data with relationship := some type } }.refreshName.advance

def lookUpCapability (wizard : Wizard) (target capability : String) : Except FlowError String :=
  match wizard.topology.nodeTemplates.find? target with
  | none => .error (.unknownNodeTemplate target)
  | some template =>
      match template.capabilityType? capability with
      | none => .error (.unknownCapability target capability)
      | some type => .ok type

def filtersFor (wizard : Wizard) (target : String) :
    Option String → Except FlowError (List HiddenFilter)
  | none => .ok wizard.hiddenFilters
  | some capability => do
      let type ← wizard.lookUpCapability target capability
      return [{ term := HiddenFilter.validTargets, facet := [type] }]

/-- A known type needs no choosing, so the wizard moves past it. -/
def selectTarget (wizard : Wizard) (target : String) (capability : Option String) :
    Except FlowError Wizard :=
  if wizard.closed then .error .flowClosed
  else do
    let hiddenFilters ← wizard.filtersFor target capability
    -- Nothing is stored before the capability has been looked up.
    let chosen := { wizard with
      hiddenFilters
      data := { wizard.data with target := some target, targetedCapabilityName := capability } }
    return if chosen.data.relationship.isSome then chosen.advance.advance.refreshName
      else chosen.advance

/-- The author's own name; an empty one, or one that comes too early, is no name. -/
def setName (wizard : Wizard) (name : String) : Except FlowError Wizard :=
  if wizard.closed then .error .flowClosed
  else
    let known := wizard.data.relationship.isSome && wizard.data.target.isSome
    .ok { wizard with
      data := { wizard.data with name := if name != "" && known then some name else none } }

def next (wizard : Wizard) : Wizard :=
  if wizard.step < totalSteps then wizard.advance else wizard

def back (wizard : Wizard) : Wizard :=
  if 1 < wizard.step then { wizard with step := wizard.step - 1 } else wizard

/-- A preferred match is chosen if it leaves no choice of capability and can be chosen at all. -/
def preselect (wizard : Wizard) : Option TargetMatch → Wizard
  | some { template, capabilities := [capability] } =>
      match wizard.selectTarget template.name (some capability.id) with
      | .ok chosen => chosen
      -- The answer may speak of templates that the topology does not have.
      | .error _ => wizard
  | _ => wizard

def store (wizard : Wizard) (resolved : ResolvedTargets) : Wizard :=
  { wizard with
    resolutionError := none
    targets := resolved.targets
    data := { wizard.data with
      relationship := resolved.relationshipType.or wizard.data.relationship } }

def applyResolved (wizard : Wizard) (resolved : ResolvedTargets) : Wizard :=
  (wizard.store resolved).preselect resolved.preferredMatch

def applyAnswer (wizard : Wizard) (answer : Answer) : Wizard × Except FlowError Unit :=
  if wizard.closed then (wizard, .ok ())
  else
    match answer with
    | .resolved targets => (wizard.applyResolved targets, .ok ())
    | .failed contexts =>
        let message := ": ".intercalate contexts
        ({ wizard with resolutionError := some message }, .error (.resolutionFailed message))

def applyEnding (wizard : Wizard) : Ending → Wizard × Except FlowError Unit
  | .answered answer => { wizard with pending := none }.applyAnswer answer
  | .dropped => ({ wizard with pending := none }, .error .resolutionDropped)

/-- The resolution under way comes to its end, if it has one; nothing is applied yet. -/
def arrive (wizard : Wizard) : Wizard :=
  { wizard with
    pending := wizard.pending.map fun pending =>
      { pending with arrived := pending.ending.isSome } }

def poll (wizard : Wizard) : Wizard × Except FlowError Bool :=
  match wizard.pending with
  | some { ending := some ending, arrived := true } =>
      let (applied, result) := wizard.applyEnding ending
      (applied, result.map fun _ => true)
  | _ => (wizard, .ok false)

/-- Waits for the resolution and applies it; nothing comes back from one that never ends. -/
def resolve (wizard : Wizard) : Wizard × Option (Except FlowError Unit) :=
  match wizard.pending with
  | none => (wizard, some (.ok ()))
  | some { ending := none, .. } => (wizard, none)
  | some { ending := some ending, .. } =>
      let (applied, result) := wizard.applyEnding ending
      (applied, some result)

end Wizard

structure WizardDialog where
  wizard : Wizard
  modal : OutcomeSlot RelationshipDescriptor := {}
  deriving DecidableEq, Repr

namespace WizardDialog

inductive Action where
  | selectRelationship (type : RelationshipType)
  | selectTarget (target : String) (capability : Option String)
  | setName (name : String)
  | next
  | back
  | finish
  | cancel
  /-- The host takes the outcome that has been signalled. -/
  | take
  /-- The resolution under way comes to its end. -/
  | arrive
  | poll
  | resolve
  | apply (answer : Answer)
  deriving DecidableEq, Repr

inductive Reply where
  | done
  | polled (applied : Bool)
  | failed (error : FlowError)
  | took (outcome : Option (Outcome RelationshipDescriptor))
  /-- The call does not come back. -/
  | waiting
  deriving DecidableEq, Repr

def finish (dialog : WizardDialog) : Except FlowError WizardDialog := do
  let (wizard, modal) ← dialog.wizard.finish dialog.modal
  return { wizard, modal }

def cancel (dialog : WizardDialog) : WizardDialog :=
  let (wizard, modal) := dialog.wizard.cancel dialog.modal
  { wizard, modal }

def attempt (dialog : WizardDialog) : Except FlowError Wizard → WizardDialog × Reply
  | .ok wizard => ({ dialog with wizard }, .done)
  | .error error => (dialog, .failed error)

def replyOf : Except FlowError Unit → Reply
  | .ok () => .done
  | .error error => .failed error

def step (dialog : WizardDialog) : Action → WizardDialog × Reply
  | .selectRelationship type => dialog.attempt (dialog.wizard.selectRelationship type)
  | .selectTarget target capability =>
      dialog.attempt (dialog.wizard.selectTarget target capability)
  | .setName name => dialog.attempt (dialog.wizard.setName name)
  | .next => ({ dialog with wizard := dialog.wizard.next }, .done)
  | .back => ({ dialog with wizard := dialog.wizard.back }, .done)
  | .finish =>
      match dialog.finish with
      | .ok finished => (finished, .done)
      | .error error => (dialog, .failed error)
  | .cancel => (dialog.cancel, .done)
  | .take => ({ dialog with modal := dialog.modal.take.2 }, .took dialog.modal.take.1)
  | .arrive => ({ dialog with wizard := dialog.wizard.arrive }, .done)
  | .poll =>
      match dialog.wizard.poll with
      | (wizard, .ok applied) => ({ dialog with wizard }, .polled applied)
      | (wizard, .error error) => ({ dialog with wizard }, .failed error)
  | .resolve =>
      match dialog.wizard.resolve with
      | (wizard, some result) => ({ dialog with wizard }, replyOf result)
      | (wizard, none) => ({ dialog with wizard }, .waiting)
  | .apply answer =>
      let (wizard, result) := dialog.wizard.applyAnswer answer
      ({ dialog with wizard }, replyOf result)

def run (dialog : WizardDialog) (actions : List Action) : WizardDialog :=
  actions.foldl (fun current action => (current.step action).1) dialog

end WizardDialog

end Wiring
