import Wiring.Proofs.Wizard.Filtering
import Wiring.Proofs.Wizard.NameCoherence

/-!
What an answer makes of the choices that it meets. The type that it brings takes the
place of any other, and so does its preferred match if that leaves no choice of
capability and the topology has it. A choice that the answer brings nothing for stays
as it was, whoever made it.
-/

namespace Wiring

/-- The target and the capability that an answer puts forward, if the topology has them. -/
def Topology.preference? (topology : Topology) (resolved : ResolvedTargets) :
    Option (String × String) :=
  match resolved.preferredMatch with
  | some { template, capabilities := [capability] } => do
      let node ← topology.nodeTemplates.find? template.name
      let _ ← node.capabilities.find? capability.id
      return (template.name, capability.id)
  | _ => none

structure RelationshipChoice.Overridden (before after : RelationshipChoice) (topology : Topology)
    (resolved : ResolvedTargets) : Prop where
  relationship : after.relationship = resolved.relationshipType.or before.relationship
  target : after.target = ((topology.preference? resolved).map Prod.fst).or before.target
  capability : after.targetedCapabilityName =
    ((topology.preference? resolved).map Prod.snd).or before.targetedCapabilityName

namespace Wizard

theorem preference_some_iff (topology : Topology) (resolved : ResolvedTargets)
    (target capability : String) :
    topology.preference? resolved = some (target, capability) ↔
      ∃ matched : MatchedCapability, matched.id = capability ∧
        resolved.preferredMatch = some { template := ⟨target⟩, capabilities := [matched] } ∧
          ∃ type, topology.Declares target capability type := by
  constructor
  · intro preferred
    unfold Topology.preference? at preferred
    split at preferred
    · rename_i template matched same
      obtain ⟨node, found, preferred⟩ := Option.bind_eq_some_iff.mp preferred
      obtain ⟨offered, kept, put⟩ := Option.bind_eq_some_iff.mp preferred
      cases put
      exact ⟨matched, rfl, same, offered.type, node, offered, found, kept, rfl⟩
    · cases preferred
  · rintro ⟨matched, rfl, same, type, node, offered, found, kept, _⟩
    simp [Topology.preference?, same, found, kept]

theorem preference_iff (wizard : Wizard) (resolved : ResolvedTargets) (target capability : String)
    (active : wizard.closed = false) :
    wizard.topology.preference? resolved = some (target, capability) ↔
      wizard.preselected? resolved = some (target, capability) := by
  rw [preference_some_iff, preselected_some_iff]
  constructor
  · rintro ⟨matched, rfl, same, type, declared⟩
    have known := (declares_iff _ _ _ _).mp declared
    exact ⟨(preselects_iff wizard resolved target matched active same).mpr ⟨type, known⟩,
      matched, rfl, same⟩
  · rintro ⟨selects, matched, rfl, same⟩
    obtain ⟨type, known⟩ := (preselects_iff wizard resolved target matched active same).mp selects
    exact ⟨matched, rfl, same, type, (declares_iff _ _ _ _).mpr known⟩

theorem applied_overridden (wizard : Wizard) (resolved : ResolvedTargets)
    (active : wizard.closed = false) :
    wizard.data.Overridden (wizard.applyResolved resolved).data wizard.topology resolved := by
  have same : wizard.topology.preference? resolved = wizard.preselected? resolved :=
    Option.ext fun (target, capability) =>
      preference_iff wizard resolved target capability active
  cases selected : wizard.preselected? resolved with
  | none =>
      rw [selected] at same
      rw [unselected_stored wizard resolved selected]
      exact ⟨rfl, by rw [same]; rfl, by rw [same]; rfl⟩
  | some choice =>
      obtain ⟨target, capability⟩ := choice
      obtain ⟨filters, _, applied⟩ :=
        preselected_targeted wizard resolved target capability selected
      rw [selected] at same
      rw [applied]
      exact ⟨rfl, by rw [same]; rfl, by rw [same]; rfl⟩

def storesType (wizard : Wizard) : WizardDialog.Action → Bool
  | .selectRelationship type => (wizard.selectRelationship type).isOk
  | action => wizard.adopts action

def storesTarget (wizard : Wizard) : WizardDialog.Action → Bool
  | .selectTarget target capability => (wizard.selectTarget target capability).isOk
  | action => (wizard.applied? action).any wizard.preselects

end Wizard

namespace WizardDialog

open Wizard

theorem step_overridden (dialog : WizardDialog) (action : Action) (resolved : ResolvedTargets)
    (applied : dialog.wizard.applied? action = some resolved) :
    dialog.wizard.data.Overridden (dialog.step action).1.wizard.data dialog.wizard.topology
      resolved := by
  obtain ⟨active, _⟩ := (applied_iff _ _ _).mp applied
  obtain ⟨_, after⟩ := step_applied dialog action resolved applied
  rw [after]
  exact applied_overridden dialog.wizard resolved active

theorem step_spared (dialog : WizardDialog) (action : Action) (answering : action.answering = true)
    (unapplied : dialog.wizard.applied? action = none) :
    (dialog.step action).1.wizard.data = dialog.wizard.data := by
  obtain ⟨_, _, same⟩ := step_unapplied dialog action answering unapplied
  rw [same]

theorem step_type_kept (dialog : WizardDialog) (action : Action)
    (unstored : dialog.wizard.storesType action = false) :
    (dialog.step action).1.wizard.data.relationship = dialog.wizard.data.relationship := by
  rcases action.kinds with aside | choosing | answering
  · obtain ⟨_, _, _, same⟩ := step_aside dialog action aside
    rw [same]
  · rcases step_choosing dialog action choosing with ⟨after, chosen, same⟩ | ⟨error, same⟩
    · rw [same]
      cases chosen with
      | targeted | named => rfl
      | related type active =>
          have taken := (select_relationship_iff dialog.wizard _ type).mpr ⟨active, rfl⟩
          simp [storesType, taken, Except.isOk, Except.toBool] at unstored
    · rw [same]
  · have unadopted : dialog.wizard.adopts action = false := by
      cases action with
      | poll | resolve | apply => exact unstored
      | _ => cases answering
    cases applied : dialog.wizard.applied? action with
    | none => rw [step_spared dialog action answering applied]
    | some resolved =>
        rw [adopts, applied, Option.any_some, Option.isSome_eq_false_iff,
          Option.isNone_iff_eq_none] at unadopted
        rw [(step_overridden dialog action resolved applied).relationship, unadopted,
          Option.none_or]

theorem step_target_kept (dialog : WizardDialog) (action : Action)
    (unstored : dialog.wizard.storesTarget action = false) :
    (dialog.step action).1.wizard.data.target = dialog.wizard.data.target ∧
      (dialog.step action).1.wizard.data.targetedCapabilityName =
        dialog.wizard.data.targetedCapabilityName := by
  rcases action.kinds with aside | choosing | answering
  · obtain ⟨_, _, _, same⟩ := step_aside dialog action aside
    rw [same]
    exact ⟨rfl, rfl⟩
  · rcases step_choosing dialog action choosing with ⟨after, chosen, same⟩ | ⟨error, same⟩
    · rw [same]
      cases chosen with
      | related | named => exact ⟨rfl, rfl⟩
      | targeted target capability filters active known =>
          have taken := (select_target_iff dialog.wizard _ target capability).mpr
            ⟨active, filters, known, rfl⟩
          simp [storesTarget, taken, Except.isOk, Except.toBool] at unstored
    · rw [same]
      exact ⟨rfl, rfl⟩
  · have unselected : (dialog.wizard.applied? action).any dialog.wizard.preselects = false := by
      cases action with
      | poll | resolve | apply => exact unstored
      | _ => cases answering
    cases applied : dialog.wizard.applied? action with
    | none =>
        rw [step_spared dialog action answering applied]
        exact ⟨rfl, rfl⟩
    | some resolved =>
        rw [applied, Option.any_some] at unselected
        rw [step_stored dialog action resolved applied unselected]
        exact ⟨rfl, rfl⟩

theorem run_type_kept (dialog : WizardDialog) (actions : List Action)
    (unstored : Never storesType dialog actions) :
    (dialog.run actions).wizard.data.relationship = dialog.wizard.data.relationship :=
  never_keeps storesType (fun wizard => wizard.data.relationship) step_type_kept dialog actions
    unstored

theorem run_target_kept (dialog : WizardDialog) (actions : List Action)
    (unstored : Never storesTarget dialog actions) :
    (dialog.run actions).wizard.data.target = dialog.wizard.data.target ∧
      (dialog.run actions).wizard.data.targetedCapabilityName =
        dialog.wizard.data.targetedCapabilityName := by
  constructor
  · exact never_keeps storesTarget (fun wizard => wizard.data.target)
      (fun current action untouched => (step_target_kept current action untouched).1) dialog
      actions unstored
  · exact never_keeps storesTarget (fun wizard => wizard.data.targetedCapabilityName)
      (fun current action untouched => (step_target_kept current action untouched).2) dialog
      actions unstored

/-- The author has selected a type, and no type has been stored since. -/
def TypeSelected (dialog : WizardDialog) (actions : List Action) (type : RelationshipType) : Prop :=
  ∃ before after, actions = before ++ .selectRelationship type :: after ∧
    (dialog.run before).wizard.storesType (.selectRelationship type) = true ∧
    Never storesType (dialog.run (before ++ [.selectRelationship type])) after

def TargetSelected (dialog : WizardDialog) (actions : List Action) (target : String)
    (capability : Option String) : Prop :=
  ∃ before after, actions = before ++ .selectTarget target capability :: after ∧
    (dialog.run before).wizard.storesTarget (.selectTarget target capability) = true ∧
    Never storesTarget (dialog.run (before ++ [.selectTarget target capability])) after

theorem selected_type (dialog : WizardDialog) (actions : List Action) (type : RelationshipType)
    (selected : dialog.TypeSelected actions type) :
    (dialog.run actions).wizard.data.relationship = some type := by
  obtain ⟨before, after, rfl, taken, never⟩ := selected
  have kept := run_type_kept _ after never
  rw [run_cut, run_concat] at kept
  obtain ⟨chosen, accepted⟩ := (is_ok_iff _).mp taken
  obtain ⟨_, rfl⟩ := (select_relationship_iff _ _ _).mp accepted
  rw [kept, step, accepted]
  rfl

theorem selected_target (dialog : WizardDialog) (actions : List Action) (target : String)
    (capability : Option String) (selected : dialog.TargetSelected actions target capability) :
    (dialog.run actions).wizard.data.target = some target ∧
      (dialog.run actions).wizard.data.targetedCapabilityName = capability := by
  obtain ⟨before, after, rfl, taken, never⟩ := selected
  obtain ⟨targets, capabilities⟩ := run_target_kept _ after never
  rw [run_cut, run_concat] at targets capabilities
  obtain ⟨chosen, accepted⟩ := (is_ok_iff _).mp taken
  obtain ⟨_, filters, _, rfl⟩ := (select_target_iff _ _ _ _).mp accepted
  rw [targets, capabilities, step, accepted]
  exact ⟨rfl, rfl⟩

theorem run_overridden (dialog : WizardDialog) (actions : List Action) (action : Action)
    (resolved : ResolvedTargets)
    (applied : (dialog.run actions).wizard.applied? action = some resolved) :
    (dialog.run actions).wizard.data.Overridden (dialog.run (actions ++ [action])).wizard.data
      dialog.wizard.topology resolved := by
  rw [run_concat, ← run_topology dialog actions]
  exact step_overridden (dialog.run actions) action resolved applied

/-- What an answer makes of a run's choices. The author's own type and target are there until it is
applied, and are there still unless it brings others; where the author has chosen nothing, there
is what it brings. -/
structure AnswerOverrides (dialog : WizardDialog) (actions : List Action) : Prop where
  chosenType : ∀ type, dialog.TypeSelected actions type →
    (dialog.run actions).wizard.data.relationship = some type
  chosenTarget : ∀ target capability, dialog.TargetSelected actions target capability →
    (dialog.run actions).wizard.data.target = some target ∧
      (dialog.run actions).wizard.data.targetedCapabilityName = capability
  type : ∀ action resolved, (dialog.run actions).wizard.applied? action = some resolved →
    ∀ type, dialog.TypeSelected actions type →
      (dialog.run (actions ++ [action])).wizard.data.relationship =
        some (resolved.relationshipType.getD type)
  target : ∀ action resolved, (dialog.run actions).wizard.applied? action = some resolved →
    ∀ target capability, dialog.TargetSelected actions target capability →
      (dialog.run (actions ++ [action])).wizard.data.target =
        some (((dialog.wizard.topology.preference? resolved).map Prod.fst).getD target) ∧
      (dialog.run (actions ++ [action])).wizard.data.targetedCapabilityName =
        ((dialog.wizard.topology.preference? resolved).map Prod.snd).or capability
  filledType : ∀ action resolved, (dialog.run actions).wizard.applied? action = some resolved →
    Never storesType dialog actions →
      (dialog.run (actions ++ [action])).wizard.data.relationship = resolved.relationshipType
  filledTarget : ∀ action resolved, (dialog.run actions).wizard.applied? action = some resolved →
    Never storesTarget dialog actions →
      (dialog.run (actions ++ [action])).wizard.data.target =
        (dialog.wizard.topology.preference? resolved).map Prod.fst ∧
      (dialog.run (actions ++ [action])).wizard.data.targetedCapabilityName =
        (dialog.wizard.topology.preference? resolved).map Prod.snd
  -- A failure, a dropped resolution and an answer that comes after the end bring nothing.
  spared : ∀ action, action.answering = true →
    (dialog.run actions).wizard.applied? action = none →
      (dialog.run (actions ++ [action])).wizard.data = (dialog.run actions).wizard.data

theorem answer_overrides_choices (scope : Scope) (topology : Topology) (pending : Option Pending)
    (actions : List Action) : (opened scope topology pending).AnswerOverrides actions := by
  have overridden := run_overridden (opened scope topology pending) actions
  constructor
  · exact selected_type _ actions
  · exact selected_target _ actions
  · intro action resolved applied type selected
    rw [(overridden action resolved applied).relationship, selected_type _ _ _ selected,
      Option.or_some]
  · intro action resolved applied target capability selected
    obtain ⟨chosen, targeted⟩ := selected_target _ _ _ _ selected
    rw [(overridden action resolved applied).target, chosen, Option.or_some,
      (overridden action resolved applied).capability, targeted]
    exact ⟨rfl, rfl⟩
  · intro action resolved applied never
    have untyped : ((opened scope topology pending).run actions).wizard.data.relationship = none :=
      run_type_kept _ actions never
    rw [(overridden action resolved applied).relationship, untyped, Option.or_none]
  · intro action resolved applied never
    obtain ⟨untargeted, uncapable⟩ := run_target_kept _ actions never
    have target : ((opened scope topology pending).run actions).wizard.data.target = none :=
      untargeted
    have capability :
        ((opened scope topology pending).run actions).wizard.data.targetedCapabilityName = none :=
      uncapable
    rw [(overridden action resolved applied).target, target, Option.or_none,
      (overridden action resolved applied).capability, capability, Option.or_none]
    exact ⟨rfl, rfl⟩
  · intro action answering unapplied
    rw [run_concat]
    exact step_spared _ action answering unapplied

def hosts : Topology where
  id := "web-app"
  nodeTemplates := .ofList [
    ("app", {
      type := "war"
      requirements := .ofList [
        ("host", { type := "container", relationshipType := some "a.b.HostedOn" })] }),
    ("server", {
      type := "compute", capabilities := .ofList [("host", { type := "container" })] }),
    ("cache", {
      type := "redis", capabilities := .ofList [("endpoint", { type := "endpoint" })] })]

def hostScope : Scope where
  source := "app"
  requirementName := "host"
  requirement := { type := "container", relationshipType := some "a.b.HostedOn" }
  preselected := some "server"

def hostPending : Option Pending :=
  some { ending := some (.answered (Resolver.inProcess.answer (hostScope.query hosts))) }

def decided : List Action := [
  .selectRelationship { elementId := "a.b.ConnectsTo" }, .selectTarget "cache" (some "endpoint"),
  .arrive]

/-- The author's type and target are both lost to the answer. -/
theorem late_answer_takes_over :
    (opened hostScope hosts hostPending).TypeSelected decided { elementId := "a.b.ConnectsTo" } ∧
      (opened hostScope hosts hostPending).TargetSelected decided "cache" (some "endpoint") ∧
      ((opened hostScope hosts hostPending).run (decided ++ [.poll])).wizard.data.relationship =
        some { elementId := "a.b.HostedOn" } ∧
      ((opened hostScope hosts hostPending).run (decided ++ [.poll])).wizard.data.target =
        some "server" ∧
      ((opened hostScope hosts hostPending).run
        (decided ++ [.poll])).wizard.data.targetedCapabilityName = some "host" := by
  refine ⟨⟨[], _, rfl, rfl, rfl, rfl, trivial⟩, ⟨[_], _, rfl, ?_, rfl, trivial⟩, ?_⟩
  · decide
  · decide

end WizardDialog

end Wiring
