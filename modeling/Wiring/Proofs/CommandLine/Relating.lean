import Wiring.CommandLine.Run
import Wiring.Proofs.Document.Faithful
import Wiring.Proofs.Wizard.Preselection

/-!
How the command that makes a relationship ends, told from its arguments and the
topology alone. The wizard passes through stages, one for each argument; in front of
the last one its name is always the one that follows from its other choices, so it is
enough to follow those.
-/

namespace Wiring

namespace CommandLine

theorem stdout_unlogged (report : Report) : report.stdout unlogged = report.output :=
  String.empty_append

theorem stdout_logged (report : Report) (written : List LogEvent → String) :
    report.stdout written = written report.log ++ report.stdout unlogged := by
  rw [stdout_unlogged, Report.stdout]

namespace RelationshipCommand

variable (command : RelationshipCommand) (topology : Topology)

def relationshipType? (requirement : Requirement) : Option RelationshipType :=
  (command.type.or requirement.relationshipType).map (relationshipTypeOf topology.relationshipTypes)

def scope (requirement : Requirement) : Scope where
  source := command.source
  requirementName := command.requirement
  requirement
  preselected := command.target

def query (requirement : Requirement) : TargetQuery where
  sourceElementName := command.source
  requirement
  requirementName := command.requirement
  nodeTemplates := topology.nodeTemplates
  nodeTypes := topology.nodeTypes
  relationshipTypes := topology.relationshipTypes
  capabilityTypes := topology.capabilityTypes
  dependencies := topology.dependencies
  preselectedTargetName := command.target

/-- The topology does not have the capability that is to be targeted. -/
def Refused : Prop :=
  ∃ target capability, command.target = some target ∧ command.capability = some capability ∧
    ∀ type, ¬ topology.Declares target capability type

def Incomplete (requirement : Requirement) : Prop :=
  command.type = none ∧ requirement.relationshipType = none ∨ command.target = none ∨
    command.name = some ""

/-- A relationship is as the arguments say, with the type that the requirement asks for if they name
none. Its name and its capability can be left to the program, which takes a capability only where
the rules leave no choice. -/
structure Describes (requirement : Requirement) (descriptor : RelationshipDescriptor) : Prop where
  type : TypeFor topology.relationshipTypes (command.type.or requirement.relationshipType)
    (some descriptor.relationshipType)
  target : command.target = some descriptor.targetNodeId
  name : descriptor.name =
    command.name.getD (defaultName descriptor.relationshipType descriptor.targetNodeId)
  capability : ∀ id, descriptor.targetedCapabilityId = some id ↔
    command.capability = some id ∨ command.capability = none ∧
      (command.query topology requirement).OnlyThrough descriptor.targetNodeId id

/-- How a command ends while logging is off; logging puts its lines in front of the rest. The first
event comes in every run, so with logging on there is more to read than the document. -/
structure EndsAs (requirement : Requirement) (report : Report) : Prop where
  logged : ∀ written, report.stdout written = written report.log ++ report.stdout unlogged
  began : report.log.head? = some (.loaded topology.id topology.nodeTemplates.entries.length)
  refused : command.Refused topology → report.exitCode = 1 ∧ report.stdout unlogged = ""
  cancelled : ¬ command.Refused topology → command.Incomplete requirement →
    report.exitCode = 2 ∧ Document.relationshipOutcome.decode? (report.stdout unlogged) =
      some (.dismissed "cancel")
  delivered : ¬ command.Refused topology → ¬ command.Incomplete requirement →
    report.exitCode = 0 ∧ ∃ descriptor,
      Document.relationshipOutcome.decode? (report.stdout unlogged) = some (.closed descriptor) ∧
        command.Describes topology requirement descriptor

theorem relationship_type_none_iff (requirement : Requirement) :
    command.relationshipType? topology requirement = none ↔
      command.type = none ∧ requirement.relationshipType = none := by
  rw [relationshipType?, Option.map_eq_none_iff, Option.or_eq_none_iff]

theorem refused_iff : command.Refused topology ↔
    ∃ target capability, command.target = some target ∧ command.capability = some capability ∧
      topology.capabilityType? target capability = none := by
  simp only [Refused, declares_iff, Option.eq_none_iff_forall_ne_some, ne_eq]

def chosenName (type : Option RelationshipType) (target : Option String) : Option String :=
  if command.name = some "" then none
  else do return command.name.getD (defaultName (← type) (← target))

def led (requirement : Requirement) (capability : Option String) : RelationshipChoice where
  relationship := command.relationshipType? topology requirement
  target := command.target
  targetedCapabilityName := capability
  name := command.chosenName (command.relationshipType? topology requirement) command.target

theorem already_selected_iff (target : String) (wizard : Wizard) :
    command.alreadySelected target wizard = true ↔ wizard.data.target = some target ∧
      (command.capability = none ∨ wizard.data.targetedCapabilityName = command.capability) := by
  simp [alreadySelected]

theorem type_chosen (wizard : Wizard) (chosen : Option RelationshipType)
    (target capability : Option String)
    (holds : wizard.Holds topology (.derived chosen target capability)) :
    ∃ after, command.chooseType topology wizard = .ok after ∧
      after.Holds topology
        (.derived ((command.type.map (relationshipTypeOf topology.relationshipTypes)).or chosen)
          target capability) := by
  cases given : command.type with
  | none =>
      refine ⟨wizard, ?_, holds⟩
      rw [chooseType, given]
  | some id =>
      let type := relationshipTypeOf topology.relationshipTypes id
      have selected := (Wizard.select_relationship_iff wizard _ type).mpr ⟨holds.active, rfl⟩
      refine ⟨wizard.related type, ?_, holds.active, holds.topology, ?_⟩
      · rw [chooseType, given]
        exact selected
      · exact wizard.related_derived type chosen target capability holds.data

-- What was preselected is only left in place by a command that does not name another capability,
-- and only replaced by one that does, so it never mixes with what the arguments say.
theorem target_chosen (wizard : Wizard) (target : String) (wanted : command.target = some target)
    (type : Option RelationshipType) (preselected : Option String)
    (holds : wizard.Holds topology
      (.derived type (preselected.bind fun _ => command.target) preselected))
    (declared : ∀ id, command.capability = some id →
      ∃ type, topology.capabilityType? target id = some type) :
    ∃ after, command.chooseTarget wizard = .ok after ∧
      after.Holds topology (.derived type command.target (command.capability.or preselected)) := by
  by_cases already : command.alreadySelected target wizard = true
  · refine ⟨wizard, ?_, holds.active, holds.topology, ?_⟩
    · rw [chooseTarget, wanted]
      exact if_pos already
    · obtain ⟨targeted, agreed⟩ := (command.already_selected_iff target wizard).mp already
      rw [holds.data] at targeted agreed ⊢
      obtain ⟨id, rfl, _⟩ := Option.bind_eq_some_iff.mp targeted
      change command.capability = none ∨ some id = command.capability at agreed
      rcases agreed with none | same
      · rw [none]
        rfl
      · rw [← same]
        rfl
  · rw [← holds.topology] at declared
    obtain ⟨filters, known⟩ := wizard.filters_for_declared target command.capability declared
    have selected := (Wizard.select_target_iff wizard _ target command.capability).mpr
      ⟨holds.active, filters, known, rfl⟩
    refine ⟨wizard.targeted target command.capability filters, ?_, holds.active, holds.topology, ?_⟩
    · rw [chooseTarget, wanted]
      simp only [already, Bool.false_eq_true, if_false]
      exact selected
    · rw [Wizard.targeted_derived _ _ _ _ _ _ _ holds.data, wanted]
      cases named : command.capability with
      | some id => rfl
      | none =>
          cases preselected with
          | none => rfl
          | some id =>
              refine absurd ((command.already_selected_iff target wizard).mpr ⟨?_, .inl named⟩)
                already
              rw [holds.data]
              exact wanted

theorem target_refused (wizard : Wizard) (target id : String)
    (wanted : command.target = some target) (named : command.capability = some id)
    (undeclared : topology.capabilityType? target id = none) (based : wizard.topology = topology)
    (absent : wizard.data.targetedCapabilityName ≠ some id) :
    ∃ error, command.chooseTarget wizard = .error error := by
  have fresh : ¬ command.alreadySelected target wizard = true := by
    intro already
    rcases ((command.already_selected_iff target wizard).mp already).2 with none | same
    · cases named.symm.trans none
    · exact absent (same.trans named)
  cases selected : wizard.selectTarget target command.capability with
  | error error =>
      refine ⟨error, ?_⟩
      rw [chooseTarget, wanted]
      simp only [fresh, Bool.false_eq_true, if_false]
      exact selected
  | ok after =>
      obtain ⟨_, filters, known, _⟩ := (Wizard.select_target_iff _ _ _ _).mp selected
      rw [named] at known
      obtain ⟨type, declared, _⟩ := (Wizard.filters_for_iff _ _ _ _).mp known
      rw [based, undeclared] at declared
      cases declared

theorem name_given (wizard : Wizard) (type : Option RelationshipType)
    (target capability : Option String)
    (holds : wizard.Holds topology (.derived type target capability)) :
    ∃ after, command.giveName wizard = .ok after ∧
      after.Holds topology
        { RelationshipChoice.derived type target capability with
          name := command.chosenName type target } := by
  cases given : command.name with
  | none =>
      refine ⟨wizard, ?_, holds.active, holds.topology, ?_⟩
      · rw [giveName, given]
      · rw [holds.data, chosenName, given]
        rfl
  | some name =>
      have renamed := (Wizard.set_name_iff wizard _ name).mpr ⟨holds.active, rfl⟩
      refine ⟨wizard.named name, ?_, holds.active, holds.topology, ?_⟩
      · rw [giveName, given]
        exact renamed
      · rw [Wizard.named, holds.data, chosenName, given]
        by_cases empty : name = ""
        · simp [empty, RelationshipChoice.derived]
        · cases type <;> cases target <;> simp [empty, RelationshipChoice.derived]

theorem wizard_stages (scope : Scope) (inProcess : command.resolverUrl = none) :
    command.wizard topology scope = (do
      let resolved := (Wizard.start scope topology).applyResolved (scope.query topology).resolve
      let typed ← command.chooseType topology resolved
      let targeted ← command.chooseTarget typed
      command.giveName targeted) := by
  rw [wizard, resolution, inProcess]
  rfl

/-- The type is chosen before the target, on top of what has been preselected. -/
theorem type_stage (requirement : Requirement) :
    ∃ typed preselected,
      command.chooseType topology
          ((Wizard.start (command.scope requirement) topology).applyResolved
            ((command.scope requirement).query topology).resolve) = .ok typed ∧
        typed.Holds topology
          (.derived (command.relationshipType? topology requirement)
            (preselected.bind fun _ => command.target) preselected) ∧
        ∀ id, preselected = some id ↔ ∃ target, command.target = some target ∧
          topology.OffersOnly (command.scope requirement) target id := by
  let started := Wizard.start (command.scope requirement) topology
  obtain ⟨preselected, holds, only⟩ := started.applied_holds topology (command.scope requirement)
    ⟨rfl, rfl, rfl⟩
  obtain ⟨typed, chosen, after⟩ := command.type_chosen topology _ _ _ _ holds
  rw [← Option.map_or] at after
  exact ⟨typed, preselected, chosen, after, only⟩

theorem wizard_refused (requirement : Requirement) (inProcess : command.resolverUrl = none)
    (refused : command.Refused topology) :
    ∃ error, command.wizard topology (command.scope requirement) = .error error := by
  obtain ⟨target, id, wanted, named, undeclared⟩ := (command.refused_iff topology).mp refused
  obtain ⟨typed, preselected, chosen, holds, only⟩ := command.type_stage topology requirement
  have absent : typed.data.targetedCapabilityName ≠ some id := by
    rw [holds.data]
    intro present
    obtain ⟨other, also, offered⟩ := (only id).mp present
    cases wanted.symm.trans also
    obtain ⟨type, declared⟩ := offered_declared _ _ _ _ ((offered id).mpr rfl)
    cases undeclared.symm.trans declared
  obtain ⟨error, failed⟩ := command.target_refused topology typed target id wanted named undeclared
    holds.topology absent
  refine ⟨error, ?_⟩
  rw [command.wizard_stages topology _ inProcess]
  simp only [chosen, failed, bind, Except.bind]

theorem target_allowed (typed : Wizard) (type : Option RelationshipType)
    (preselected : Option String) (allowed : ¬ command.Refused topology)
    (holds : typed.Holds topology
      (.derived type (preselected.bind fun _ => command.target) preselected)) :
    ∃ targeted capability, command.chooseTarget typed = .ok targeted ∧
      targeted.Holds topology (.derived type command.target capability) ∧
      (command.target.isSome → capability = command.capability.or preselected) := by
  cases wanted : command.target with
  | none =>
      refine ⟨typed, preselected, ?_, ?_, nofun⟩
      · rw [chooseTarget, wanted]
      · rw [wanted] at holds
        cases preselected <;> exact holds
  | some target =>
      have declared : ∀ id, command.capability = some id →
          ∃ type, topology.capabilityType? target id = some type := by
        intro id named
        refine Option.ne_none_iff_exists'.mp fun undeclared => ?_
        exact allowed ((command.refused_iff topology).mpr ⟨target, id, wanted, named, undeclared⟩)
      obtain ⟨after, selected, targeted⟩ := command.target_chosen topology typed target wanted
        type preselected holds declared
      rw [wanted] at targeted
      exact ⟨after, _, selected, targeted, fun _ => rfl⟩

theorem wizard_led (requirement : Requirement) (inProcess : command.resolverUrl = none)
    (allowed : ¬ command.Refused topology) :
    ∃ wizard capability, command.wizard topology (command.scope requirement) = .ok wizard ∧
      wizard.Holds topology (command.led topology requirement capability) ∧
      ∀ target, command.target = some target → ∀ id, capability = some id ↔
        command.capability = some id ∨ command.capability = none ∧
          topology.OffersOnly (command.scope requirement) target id := by
  obtain ⟨typed, preselected, chosen, holds, only⟩ := command.type_stage topology requirement
  obtain ⟨targeted, capability, selected, holds, taken⟩ :=
    command.target_allowed topology typed _ preselected allowed holds
  obtain ⟨wizard, named, holds⟩ := command.name_given topology targeted _ _ _ holds
  refine ⟨wizard, capability, ?_, holds, ?_⟩
  · rw [command.wizard_stages topology _ inProcess]
    simp only [chosen, selected, named, bind, Except.bind]
  · intro target wanted id
    rw [taken (wanted ▸ rfl), Option.or_eq_some_iff, only]
    constructor
    · rintro (given | ⟨none, other, also, offered⟩)
      · exact .inl given
      · cases wanted.symm.trans also
        exact .inr ⟨none, offered⟩
    · rintro (given | ⟨none, offered⟩)
      · exact .inl given
      · exact .inr ⟨none, target, wanted, offered⟩

theorem dialog_ends (scope : Scope) (wizard : Wizard)
    (led : command.wizard topology scope = .ok wizard) (active : wizard.closed = false) :
    ∃ dialog, command.dialog topology scope = .ok dialog ∧
      dialog.modal.outcome =
        some (wizard.descriptor?.elim (.dismissed cancelReason) .closed) := by
  rw [dialog, led]
  cases complete : wizard.descriptor? with
  | none =>
      have disabled := wizard.finish_disabled_iff.mpr complete
      refine ⟨({ wizard } : WizardDialog).cancel, ?_, ?_⟩
      · simp only [bind, Except.bind, disabled, if_true]
        rfl
      · rw [WizardDialog.cancel, Wizard.cancel, active]
        rfl
  | some descriptor =>
      have enabled : wizard.finishDisabled = false := by
        refine Bool.eq_false_iff.mpr fun disabled => ?_
        cases complete.symm.trans (wizard.finish_disabled_iff.mp disabled)
      have finished := (WizardDialog.finish_iff { wizard } _).mpr ⟨active, descriptor, complete, rfl⟩
      refine ⟨⟨wizard.close .finished, ({} : OutcomeSlot _).close descriptor⟩, ?_, rfl⟩
      simp only [bind, Except.bind, enabled, Bool.false_eq_true, if_false]
      exact finished

theorem run_scoped (content : Option ByteArray) (source : NodeTemplate) (requirement : Requirement)
    (loaded : TopologyFile.load content = .ok topology)
    (found : topology.nodeTemplates.find? command.source = some source)
    (needed : source.requirements.find? command.requirement = some requirement) :
    ∃ events, command.run content =
      (match command.dialog topology (command.scope requirement) with
        | .error error => failure (error.message "relationship")
        | .ok dialog => report dialog.modal.outcome).after
      (.loaded topology.id topology.nodeTemplates.entries.length :: events) := by
  have posed := (scope_of_requirement_iff topology command.source command.requirement _).mpr
    ⟨source, requirement, found, needed, rfl⟩
  refine ⟨resolverEvents command.resolverUrl ++
    command.resolutionEvents topology (command.scope requirement), ?_⟩
  rw [run, withScope, withTopology, loaded]
  simp only [posed]
  rfl

theorem descriptor_none_iff (requirement : Requirement) (capability : Option String)
    (wizard : Wizard) (data : wizard.data = command.led topology requirement capability) :
    wizard.descriptor? = none ↔ command.Incomplete requirement := by
  rw [Wizard.descriptor?, data, Incomplete, ← command.relationship_type_none_iff topology]
  simp only [led, chosenName]
  by_cases empty : command.name = some ""
  · simp [empty]
  · cases command.relationshipType? topology requirement <;> cases command.target <;> simp [empty]

theorem descriptor_describes (requirement : Requirement) (capability : Option String)
    (wizard : Wizard) (data : wizard.data = command.led topology requirement capability)
    (taken : ∀ target, command.target = some target → ∀ id, capability = some id ↔
      command.capability = some id ∨ command.capability = none ∧
        topology.OffersOnly (command.scope requirement) target id)
    (descriptor : RelationshipDescriptor) (complete : wizard.descriptor? = some descriptor) :
    command.Describes topology requirement descriptor := by
  have chosen := (wizard.descriptor_iff descriptor).mp complete
  rw [data, led, RelationshipChoice.mk.injEq] at chosen
  obtain ⟨type, target, targeted, named⟩ := chosen
  refine ⟨(type_for_iff _ _ _).mpr type.symm, target, ?_, ?_⟩
  · rw [type, target, chosenName] at named
    split at named
    · cases named
    · exact (Option.some.inj named).symm
  · intro id
    rw [← targeted, taken descriptor.targetNodeId target, offers_only_iff]
    rfl

theorem outcome_printed (outcome : Outcome RelationshipDescriptor) (events : List LogEvent) :
    Document.relationshipOutcome.decode?
      (((report (some outcome)).after events).stdout unlogged) = some outcome := by
  have faithful := Document.outcome_faithful _ Document.relationship_descriptor_faithful
  rw [stdout_unlogged]
  cases outcome <;> exact Document.decode_indented_line _ faithful _

end RelationshipCommand

theorem relationship_run_ends (arguments : List String) (contents : String → Option ByteArray)
    (command : RelationshipCommand) (topology : Topology) (source : NodeTemplate)
    (requirement : Requirement) (parsed : parse arguments = .ok (.relationship command))
    (inProcess : command.resolverUrl = none)
    (loaded : TopologyFile.load (contents command.topology) = .ok topology)
    (found : topology.nodeTemplates.find? command.source = some source)
    (needed : source.requirements.find? command.requirement = some requirement) :
    command.EndsAs topology requirement (run arguments contents) := by
  have asked : run arguments contents = command.run (contents command.topology) := by
    rw [run, parsed]
    rfl
  obtain ⟨events, ran⟩ :=
    command.run_scoped topology _ source requirement loaded found needed
  rw [asked, ran]
  by_cases refused : command.Refused topology
  · obtain ⟨error, failed⟩ := command.wizard_refused topology requirement inProcess refused
    have ended : command.dialog topology (command.scope requirement) = .error error := by
      rw [RelationshipCommand.dialog, failed]
      rfl
    rw [ended]
    exact ⟨stdout_logged _, rfl, fun _ => ⟨rfl, stdout_unlogged _⟩,
      fun allowed => absurd refused allowed, fun allowed => absurd refused allowed⟩
  · obtain ⟨wizard, capability, led, holds, taken⟩ :=
      command.wizard_led topology requirement inProcess refused
    obtain ⟨dialog, ended, signalled⟩ := command.dialog_ends topology _ wizard led holds.active
    have incomplete := command.descriptor_none_iff topology requirement capability wizard holds.data
    rw [ended]
    simp only [signalled]
    cases complete : wizard.descriptor? with
    | none =>
        refine ⟨stdout_logged _, rfl, fun given => absurd given refused, fun _ _ => ⟨rfl, ?_⟩,
          fun _ given => ?_⟩
        · exact RelationshipCommand.outcome_printed _ _
        · exact absurd (incomplete.mp complete) given
    | some descriptor =>
        refine ⟨stdout_logged _, rfl, fun given => absurd given refused, fun _ given => ?_,
          fun _ _ => ⟨rfl, descriptor, ?_, ?_⟩⟩
        · cases complete.symm.trans (incomplete.mpr given)
        · exact RelationshipCommand.outcome_printed _ _
        · exact command.descriptor_describes topology requirement capability wizard holds.data taken
            descriptor complete

def hostFile : String :=
  "id: web
nodeTemplates:
  app:
    type: war
    requirements:
      host:
        type: host
  server:
    type: vm
    capabilities:
      slot:
        type: host
"

def hostNeed : Requirement where
  type := "host"

def hostSource : NodeTemplate where
  type := "war"
  requirements := .ofList [("host", hostNeed)]

def hostTopology : Topology where
  id := "web"
  nodeTemplates := .ofList [
    ("app", hostSource),
    ("server", { type := "vm", capabilities := .ofList [("slot", { type := "host" })] })]

def hostArguments : List String :=
  ["relationship", "-tweb.yaml", "--source=app", "-r", "host", "--target", "server",
    "--type=a.b.HostedOn"]

def hostCommand : RelationshipCommand where
  topology := "web.yaml"
  source := "app"
  requirement := "host"
  target := some "server"
  type := some "a.b.HostedOn"

theorem host_run_ends :
    ¬ hostCommand.Refused hostTopology ∧ ¬ hostCommand.Incomplete hostNeed ∧
      hostCommand.EndsAs hostTopology hostNeed (run hostArguments fun _ => some hostFile.toUTF8) :=
  ⟨by simp [RelationshipCommand.Refused, hostCommand],
    by simp [RelationshipCommand.Incomplete, hostCommand],
    relationship_run_ends hostArguments _ hostCommand hostTopology hostSource hostNeed
      (by decide) rfl (by decide +kernel) (by decide) (by decide)⟩

end CommandLine

end Wiring
