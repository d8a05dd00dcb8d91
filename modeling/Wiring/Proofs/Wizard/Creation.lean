import Wiring.Proofs.Landing
import Wiring.Proofs.Matching
import Wiring.Proofs.Wizard.Filtering
import Wiring.Proofs.Wizard.TerminalSignal

/-!
What becomes of a topology when the relationship that a wizard hands over is made.
A capability is looked up before it is stored, so a relationship to a capability
lands. A target without a capability is stored as it is given: if the topology does
not have it, the check of the larger topology reports just this relationship.
-/

namespace Wiring

namespace Wizard

theorem descriptor_capability (wizard : Wizard) (descriptor : RelationshipDescriptor)
    (targeting : Targeting wizard) (complete : wizard.descriptor? = some descriptor)
    (capability : String) (named : descriptor.targetedCapabilityId = some capability) :
    ∃ type, wizard.topology.Declares descriptor.targetNodeId capability type := by
  have data := (descriptor_iff wizard descriptor).mp complete
  have chosen : wizard.data.targetedCapabilityName = some capability := by
    rw [data]
    exact named
  obtain ⟨target, type, targeted, declared, _⟩ := targeting capability chosen
  rw [data] at targeted
  cases targeted
  exact ⟨type, (declares_iff _ _ _ _).mpr declared⟩

end Wizard

theorem descriptor_lands (topology : Topology) (descriptor : RelationshipDescriptor)
    (requirement : String) (template : NodeTemplate)
    (found : topology.nodeTemplates.find? descriptor.targetNodeId = some template)
    (declared : ∀ capability, descriptor.targetedCapabilityId = some capability →
      ∃ type, topology.Declares descriptor.targetNodeId capability type) :
    (descriptor.relationship requirement).Lands topology.nodeTemplates := by
  refine ⟨template, found, ?_⟩
  intro capability named
  obtain ⟨_, other, offered, foundOther, foundOffered, _⟩ := declared capability named
  cases Option.some.inj (found.symm.trans foundOther)
  rw [NameMap.contains, foundOffered, Option.isSome_some]

namespace WizardDialog

def grown (topology : Topology) (scope : Scope) (descriptor : RelationshipDescriptor) : Topology :=
  topology.relate scope.source descriptor.name (descriptor.relationship scope.requirementName)

theorem delivered_capability (topology : Topology) (scope : Scope) (pending : Option Pending)
    (actions : List Action) (descriptor : RelationshipDescriptor)
    (delivered : .closed descriptor ∈ (opened scope topology pending).sent actions)
    (capability : String) (named : descriptor.targetedCapabilityId = some capability) :
    ∃ type, topology.Declares descriptor.targetNodeId capability type := by
  have complete := delivered_stays (opened scope topology pending) actions descriptor rfl delivered
  have targeting := opened_targeting scope topology pending actions
  have declared := Wizard.descriptor_capability _ descriptor targeting complete capability named
  rwa [run_topology] at declared

/-- A relationship that a finished wizard leaves behind passes the check if its target exists, as it
does whenever a capability was selected; else the check reports it, and nothing else. -/
theorem created_relationship_checked (topology : Topology) (source requirement : String)
    (scope : Scope) (hint : Option String) (pending : Option Pending) (actions : List Action)
    (descriptor : RelationshipDescriptor) (accepted : topology.firstDangling? = none)
    (posed : Scope.ofRequirement topology source requirement = .ok scope)
    (delivered : .closed descriptor ∈
      (opened { scope with preselected := hint } topology pending).sent actions) :
    (grown topology scope descriptor).firstDangling? =
        (if topology.nodeTemplates.contains descriptor.targetNodeId then none
        else some (.unknownTemplate source descriptor.name descriptor.targetNodeId)) ∧
      ∀ capability, descriptor.targetedCapabilityId = some capability →
        (grown topology scope descriptor).firstDangling? = none ∧
          ∃ type, topology.Declares descriptor.targetNodeId capability type := by
  have consistent := (first_dangling_none_iff topology).mp accepted
  obtain ⟨template, needed, found, _, rfl⟩ := (scope_of_requirement_iff _ _ _ _).mp posed
  have declared := delivered_capability topology _ pending actions descriptor delivered
  have lands : ∀ target, topology.nodeTemplates.find? descriptor.targetNodeId = some target →
      (grown topology { source, requirementName := requirement, requirement := needed }
        descriptor).firstDangling? = none := by
    intro target foundTarget
    refine (first_dangling_none_iff _).mpr (relate_consistent topology source descriptor.name
      (descriptor.relationship requirement) consistent ?_)
    exact descriptor_lands topology descriptor requirement target foundTarget declared
  constructor
  · cases foundTarget : topology.nodeTemplates.find? descriptor.targetNodeId with
    | some target =>
        rw [lands target foundTarget, NameMap.contains, foundTarget, Option.isSome_some, if_pos rfl]
    | none =>
        have absent := (relate_finds_none_iff topology source descriptor.name
          (descriptor.relationship requirement) descriptor.targetNodeId).mpr foundTarget
        rw [NameMap.contains, foundTarget, Option.isSome_none, if_neg Bool.false_ne_true]
        refine relate_first_dangling topology source descriptor.name _ template _ consistent found ?_
        rw [Relationship.dangling?]
        simp only [RelationshipDescriptor.relationship] at absent ⊢
        rw [absent]
  · intro capability named
    obtain ⟨type, target, offered, foundTarget, known⟩ := declared capability named
    exact ⟨lands target foundTarget, type, target, offered, foundTarget, known⟩

def lonely : Topology where
  id := "web-app"
  nodeTemplates := .ofList [
    ("app", { type := "war", requirements := .ofList [("host", { type := "container" })] })]

def misdirected : List Action := [
  .selectRelationship { elementId := "a.b.HostedOn" }, .selectTarget "server" none, .finish]

def misdirection : RelationshipDescriptor where
  relationshipType := { elementId := "a.b.HostedOn" }
  targetNodeId := "server"
  targetedCapabilityId := none
  name := "hostedOnServer"

def lonelyScope : Scope where
  source := "app"
  requirementName := "host"
  requirement := { type := "container" }

theorem created_relationship_dangles :
    lonely.firstDangling? = none ∧
      .closed misdirection ∈ (opened lonelyScope lonely none).sent misdirected ∧
      (grown lonely lonelyScope misdirection).firstDangling? =
        some (.unknownTemplate "app" "hostedOnServer" "server") :=
  ⟨by decide, by decide, (created_relationship_checked lonely "app" "host" lonelyScope none none
    misdirected misdirection (by decide) (by decide) (by decide)).1⟩

end WizardDialog

end Wiring
