import Wiring.Proofs.Wizard.Filtering

/-!
The two selections that complete a wizard. Whichever comes first, the second one
derives the name, so an open wizard holds the same choices after both; only the step
tells the orders apart, and it is past the last choice either way.
-/

namespace Wiring

namespace Wizard

structure Ready (wizard : Wizard) (descriptor : RelationshipDescriptor) : Prop where
  phase : wizard.phase = .confirm
  complete : wizard.descriptor? = some descriptor
  enabled : wizard.finishDisabled = false
  finishes : ∀ {μ : Type} [Modal μ RelationshipDescriptor] (modal : μ),
    wizard.finish modal = .ok (wizard.close .finished, Modal.close modal descriptor)

structure Agrees (one other : Wizard) : Prop where
  data : one.data = other.data
  filters : one.hiddenFilters = other.hiddenFilters
  candidates : one.candidates = other.candidates
  descriptor : one.descriptor? = other.descriptor?
  otherwise : other = { one with step := other.step }

def SelectionsCommute (wizard : Wizard) (type : RelationshipType) (target : String)
    (capability : Option String) : Prop :=
  ∃ typedFirst targetedFirst,
    (do (← wizard.selectRelationship type).selectTarget target capability) = .ok typedFirst ∧
    (do (← wizard.selectTarget target capability).selectRelationship type) = .ok targetedFirst ∧
    Agrees typedFirst targetedFirst ∧
    typedFirst.Ready ⟨type, target, capability, defaultName type target⟩ ∧
    targetedFirst.Ready ⟨type, target, capability, defaultName type target⟩

def completed (wizard : Wizard) (step : Nat) (filters : List HiddenFilter)
    (descriptor : RelationshipDescriptor) : Wizard :=
  { wizard with
    step
    hiddenFilters := filters
    data := {
      relationship := some descriptor.relationshipType
      target := some descriptor.targetNodeId
      targetedCapabilityName := descriptor.targetedCapabilityId
      name := some descriptor.name } }

theorem completed_ready (wizard : Wizard) (step : Nat) (filters : List HiddenFilter)
    (descriptor : RelationshipDescriptor) (active : wizard.closed = false) (late : 3 ≤ step) :
    (wizard.completed step filters descriptor).Ready descriptor := by
  have still : (wizard.completed step filters descriptor).closed = false := active
  have complete : (wizard.completed step filters descriptor).descriptor? = some descriptor := rfl
  constructor
  · exact late_confirms _ still late
  · exact complete
  · rfl
  · intro μ _ modal
    rw [finish, still, complete]
    rfl

theorem completed_agrees (wizard : Wizard) (early late : Nat) (filters : List HiddenFilter)
    (descriptor : RelationshipDescriptor) :
    Agrees (wizard.completed early filters descriptor) (wizard.completed late filters descriptor) :=
  ⟨rfl, rfl, rfl, rfl, rfl⟩

section

variable (wizard : Wizard) (type : RelationshipType) (target : String) (capability : Option String)
  (filters : List HiddenFilter)

theorem related_targeted :
    (wizard.related type).targeted target capability filters =
      wizard.completed (wizard.step + 3) filters
        ⟨type, target, capability, defaultName type target⟩ :=
  rfl

-- Without a type the first selection takes one step and derives no name.
theorem targeted_related :
    (wizard.targeted target capability filters).related type =
      wizard.completed (wizard.step + if wizard.data.relationship.isSome then 3 else 2) filters
        ⟨type, target, capability, defaultName type target⟩ := by
  cases known : wizard.data.relationship <;> simp [related, targeted, completed, known]

theorem selections_commute_open (active : wizard.closed = false) (positive : 1 ≤ wizard.step)
    (known : wizard.filtersFor target capability = .ok filters) :
    wizard.SelectionsCommute type target capability := by
  have knownAfter : (wizard.related type).filtersFor target capability = .ok filters := by
    cases capability <;> exact known
  have typed := (select_relationship_iff wizard _ type).mpr ⟨active, rfl⟩
  have targeted := (select_target_iff wizard _ target capability).mpr ⟨active, filters, known, rfl⟩
  have thenTargeted := (select_target_iff (wizard.related type) _ target capability).mpr
    ⟨active, filters, knownAfter, rfl⟩
  have thenTyped := (select_relationship_iff (wizard.targeted target capability filters) _ type).mpr
    ⟨active, rfl⟩
  rw [related_targeted] at thenTargeted
  rw [targeted_related] at thenTyped
  have early : 3 ≤ wizard.step + 3 := Nat.le_add_left 3 wizard.step
  have late : 3 ≤ wizard.step + if wizard.data.relationship.isSome then 3 else 2 := by
    split <;> omega
  refine ⟨_, _, ?_, ?_, completed_agrees wizard _ _ filters
    ⟨type, target, capability, defaultName type target⟩,
    completed_ready wizard _ filters _ active early, completed_ready wizard _ filters _ active late⟩
  · rw [typed]
    exact thenTargeted
  · rw [targeted]
    exact thenTyped

end

end Wizard

namespace WizardDialog

theorem selections_commute (scope : Scope) (topology : Topology) (pending : Option Pending)
    (actions : List Action) (type : RelationshipType) (target : String)
    (capability : Option String)
    (active : ((opened scope topology pending).run actions).wizard.closed = false)
    (declared : ∀ id, capability = some id → ∃ kind, topology.Declares target id kind) :
    ((opened scope topology pending).run actions).wizard.SelectionsCommute type target
      capability := by
  have based : ((opened scope topology pending).run actions).wizard.topology = topology :=
    run_topology _ actions
  rw [← based] at declared
  simp only [declares_iff] at declared
  obtain ⟨filters, known⟩ := Wizard.filters_for_declared _ target capability declared
  have positive := opened_step_positive scope topology pending actions
  exact Wizard.selections_commute_open _ type target capability filters active positive known

def hosted : Topology where
  id := "web"
  nodeTemplates := .ofList [
    ("server", { type := "vm", capabilities := .ofList [("slot", { type := "host" })] })]

def need : Scope where
  source := "app"
  requirementName := "host"
  requirement := { type := "host" }

def hesitant : List Action := [
  .apply (.failed ["no answer"]), .next, .selectTarget "cache" none, .back]

theorem hesitant_commutes :
    ((opened need hosted none).run hesitant).wizard.closed = false ∧
      hosted.Declares "server" "slot" "host" ∧
      ((opened need hosted none).run hesitant).wizard.SelectionsCommute
        { elementId := "a.b.HostedOn" } "server" (some "slot") := by
  have slot : hosted.Declares "server" "slot" "host" :=
    (declares_iff _ _ _ _).mpr (by decide)
  refine ⟨by decide, slot, ?_⟩
  apply selections_commute need hosted none hesitant
  · decide
  · rintro _ ⟨rfl⟩
    exact ⟨"host", slot⟩

end WizardDialog

end Wiring
