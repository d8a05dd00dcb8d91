import Wiring.Proofs.Wizard.InFlight
import Wiring.Proofs.Wizard.Preselection

/-!
A wizard that is opened with the in-process resolver. The target that its author has in
mind is selected as the answer is applied if just one capability of it is eligible, and
that selection is never refused, whatever the author has done in between.
-/

namespace Wiring

def inProcess (query : TargetQuery) : Option Ending :=
  some (.answered (Resolver.inProcess.answer query))

inductive Topology.PassesOver (topology : Topology) (scope : Scope) : Prop where
  | absent (unset : scope.preselected = none)
  | unoffered (target : String) (wanted : scope.preselected = some target)
      (missing : ∀ offered ∈ (scope.query topology).resolve.targets,
        offered.template.name ≠ target)
  | source (wanted : scope.preselected = some scope.source)
  | ineligible (target : String) (wanted : scope.preselected = some target)
      (none : ∀ id, ¬ (scope.query topology).EligibleOn target id)
  | several (target first second : String) (wanted : scope.preselected = some target)
      (different : first ≠ second) (one : (scope.query topology).EligibleOn target first)
      (another : (scope.query topology).EligibleOn target second)
  | saturated (full : (scope.query topology).Saturated)

theorem only_not_passed (topology : Topology) (scope : Scope) (target capability : String)
    (wanted : scope.preselected = some target)
    (only : topology.OffersOnly scope target capability) : ¬ topology.PassesOver scope := by
  have offered := (only capability).mpr rfl
  obtain ⟨free, other, eligible⟩ := (offers_by_rules _ _ _ _).mp offered
  have same : ∀ id, (scope.query topology).EligibleOn target id → id = capability :=
    fun id also => (only id).mp ((offers_by_rules _ _ _ _).mpr ⟨free, other, also⟩)
  intro passes
  cases passes with
  | absent unset => cases unset.symm.trans wanted
  | unoffered name hint missing =>
      cases hint.symm.trans wanted
      obtain ⟨listed, member, named, _⟩ := (offers_iff _ _ _ _).mp offered
      exact missing listed member named
  | source hint =>
      cases hint.symm.trans wanted
      exact other rfl
  | ineligible name hint none =>
      cases hint.symm.trans wanted
      exact none capability eligible
  | several name first second hint different one another =>
      cases hint.symm.trans wanted
      exact different ((same first one).trans (same second another).symm)
  | saturated full => exact free full

/-- The resolver offers just one capability of the template in mind, or there is a reason why nothing
gets selected. -/
theorem only_or_passed (topology : Topology) (scope : Scope) :
    (∃ target capability, scope.preselected = some target ∧
        topology.OffersOnly scope target capability) ∨ topology.PassesOver scope := by
  cases wanted : scope.preselected with
  | none => exact .inr (.absent wanted)
  | some target =>
      by_cases full : (scope.query topology).Saturated
      · exact .inr (.saturated full)
      by_cases itself : target = scope.source
      · exact .inr (.source (itself ▸ wanted))
      by_cases none : ∀ id, ¬ (scope.query topology).EligibleOn target id
      · exact .inr (.ineligible target wanted none)
      obtain ⟨id, eligible⟩ := not_forall_not.mp none
      by_cases alone : ∀ other, (scope.query topology).EligibleOn target other → other = id
      · refine .inl ⟨target, id, rfl, ?_⟩
        intro other
        rw [offers_by_rules]
        constructor
        · exact fun offered => alone other offered.2.2
        · rintro rfl
          exact ⟨full, itself, eligible⟩
      · obtain ⟨other, also, different⟩ := by
          simpa only [not_forall, exists_prop] using alone
        exact .inr (.several target other id wanted different also eligible)

def Topology.requiredType? (topology : Topology) (scope : Scope) : Option RelationshipType :=
  scope.requirement.relationshipType.map (relationshipTypeOf topology.relationshipTypes)

namespace Wizard

/-- The selection of a preferred match is not refused: the topology has what the resolver offers. -/
theorem preferred_accepted (wizard : Wizard) (scope : Scope) (template : TargetTemplate)
    (capability : MatchedCapability) (active : wizard.closed = false)
    (preferred : (scope.query wizard.topology).resolve.preferredMatch =
      some { template, capabilities := [capability] }) :
    ∃ chosen,
      (wizard.store (scope.query wizard.topology).resolve).selectTarget template.name
          (some capability.id) = .ok chosen ∧
        wizard.applyResolved (scope.query wizard.topology).resolve = chosen := by
  let resolved := (scope.query wizard.topology).resolve
  have only := (preferred_only_iff wizard.topology scope template.name capability.id).mp
    ⟨capability, rfl, preferred⟩
  obtain ⟨type, declared⟩ := offered_declared wizard.topology scope template.name capability.id
    ((only.2 capability.id).mpr rfl)
  have known : (wizard.store resolved).filtersFor template.name (some capability.id) =
      .ok [.admitting type] :=
    (filters_for_iff _ _ _ _).mpr ⟨type, declared, rfl⟩
  have accepted := (select_target_iff (wizard.store resolved) _ template.name
    (some capability.id)).mpr ⟨active, _, known, rfl⟩
  refine ⟨_, accepted, ?_⟩
  rw [applyResolved, preferred]
  simp only [preselect, resolved, accepted]

/-- A new wizard after the in-process answer, with a target that only one capability is offered of. -/
theorem start_applied_only (topology : Topology) (scope : Scope) (target capability : String)
    (wanted : scope.preselected = some target)
    (only : topology.OffersOnly scope target capability) :
    ∃ type, topology.capabilityType? target capability = some type ∧
      (Wizard.start scope topology).applyResolved (scope.query topology).resolve =
        { Wizard.start scope topology with
          step := if (topology.requiredType? scope).isSome then 3 else 2
          data := .derived (topology.requiredType? scope) (some target) (some capability)
          targets := (scope.query topology).resolve.targets
          hiddenFilters := [.admitting type] } := by
  let resolved := (scope.query topology).resolve
  have chosen := (preselected_iff (.start scope topology) scope target capability rfl).mpr
    ⟨wanted, only⟩
  obtain ⟨filters, known, same⟩ :=
    preselected_targeted (.start scope topology) resolved target capability chosen
  obtain ⟨type, declared, rfl⟩ := (filters_for_iff _ _ _ _).mp known
  have asked : resolved.relationshipType = topology.requiredType? scope :=
    (scope.query topology).resolve_type
  refine ⟨type, declared, same.trans ?_⟩
  rw [targeted, store, asked]
  cases topology.requiredType? scope <;> rfl

theorem start_applied_passed (topology : Topology) (scope : Scope)
    (passes : topology.PassesOver scope) :
    (Wizard.start scope topology).applyResolved (scope.query topology).resolve =
      { Wizard.start scope topology with
        data := { relationship := topology.requiredType? scope }
        targets := (scope.query topology).resolve.targets } := by
  let resolved := (scope.query topology).resolve
  have unselected : (Wizard.start scope topology).preselected? resolved = none := by
    cases selected : (Wizard.start scope topology).preselected? resolved with
    | none => rfl
    | some choice =>
        obtain ⟨wanted, only⟩ :=
          (preselected_iff (.start scope topology) scope choice.1 choice.2 rfl).mp selected
        exact absurd passes (only_not_passed topology scope _ _ wanted only)
  have asked : resolved.relationshipType = topology.requiredType? scope :=
    (scope.query topology).resolve_type
  rw [unselected_stored _ _ unselected, store, asked]
  cases topology.requiredType? scope <;> rfl

end Wizard

namespace WizardDialog

open Wizard

def asking (scope : Scope) (topology : Topology) : WizardDialog :=
  opened scope topology (some { ending := inProcess (scope.query topology) })

theorem asking_resolved (scope : Scope) (topology : Topology) :
    (asking scope topology).step .resolve =
      ({ wizard := (Wizard.start scope topology).applyResolved (scope.query topology).resolve },
        .done) :=
  rfl

theorem asking_resolved_only (scope : Scope) (topology : Topology) (target capability : String)
    (wanted : scope.preselected = some target)
    (only : topology.OffersOnly scope target capability) :
    ∃ type, topology.capabilityType? target capability = some type ∧
      (asking scope topology).step .resolve =
        ({ wizard := { Wizard.start scope topology with
            step := if (topology.requiredType? scope).isSome then 3 else 2
            data := .derived (topology.requiredType? scope) (some target) (some capability)
            targets := (scope.query topology).resolve.targets
            hiddenFilters := [.admitting type] } },
          .done) := by
  obtain ⟨type, declared, applied⟩ := start_applied_only topology scope target capability wanted only
  exact ⟨type, declared, by rw [asking_resolved, applied]⟩

theorem settles_applied (ending : Option Ending) (dialog : WizardDialog) (actions : List Action)
    (remains : Remains ending actions (dialog.run actions).wizard) (action : Action)
    (settles : Settles ending dialog actions action) (resolved : ResolvedTargets)
    (brought : ending = some (.answered (.resolved resolved))) :
    (dialog.run actions).wizard.applied? action = some resolved := by
  have noticed := settles_noticed ending dialog actions remains action settles _ brought
  exact (applied_iff _ _ _).mpr ⟨settles.active, noticed_received _ _ _ noticed⟩

theorem step_preferred (dialog : WizardDialog) (action : Action) (scope : Scope)
    (applied : dialog.wizard.applied? action = some (scope.query dialog.wizard.topology).resolve)
    (template : TargetTemplate) (capability : MatchedCapability)
    (preferred : (scope.query dialog.wizard.topology).resolve.preferredMatch =
      some { template, capabilities := [capability] }) :
    ∃ chosen pending,
      (dialog.wizard.store (scope.query dialog.wizard.topology).resolve).selectTarget template.name
          (some capability.id) = .ok chosen ∧
        (dialog.step action).1.wizard = { chosen with pending } := by
  obtain ⟨active, _⟩ := (applied_iff _ _ _).mp applied
  obtain ⟨chosen, accepted, same⟩ :=
    preferred_accepted dialog.wizard scope template capability active preferred
  obtain ⟨pending, after⟩ := step_applied dialog action _ applied
  exact ⟨chosen, pending, accepted, after.trans (by rw [same])⟩

/-- The in-process answer is never refused its preferred match. Applied at once, it leaves a wizard
that is told by what the resolver offers of the target in mind. -/
structure OpensAsOffered (scope : Scope) (topology : Topology) (dialog : WizardDialog) : Prop where
  answered : ∀ actions action, Settles (inProcess (scope.query topology)) dialog actions action →
    (dialog.run actions).wizard.applied? action = some (scope.query topology).resolve
  accepted : ∀ actions action,
    (dialog.run actions).wizard.applied? action = some (scope.query topology).resolve →
    ∀ template capability,
      (scope.query topology).resolve.preferredMatch =
        some { template, capabilities := [capability] } →
      ∃ chosen pending,
        ((dialog.run actions).wizard.store (scope.query topology).resolve).selectTarget
            template.name (some capability.id) = .ok chosen ∧
          (dialog.run (actions ++ [action])).wizard = { chosen with pending }
  offered : ∀ actions action,
    (dialog.run actions).wizard.applied? action = some (scope.query topology).resolve →
      (dialog.run (actions ++ [action])).wizard.targets = (scope.query topology).resolve.targets
  cases : (∃ target capability, scope.preselected = some target ∧
      topology.OffersOnly scope target capability) ∨ topology.PassesOver scope
  untyped : ∀ target capability, scope.preselected = some target →
    topology.OffersOnly scope target capability → scope.requirement.relationshipType = none →
    ∃ type, topology.Declares target capability type ∧
      dialog.step .resolve =
        ({ dialog with
            wizard := { Wizard.start scope topology with
              step := 2
              data := { target := some target, targetedCapabilityName := some capability }
              targets := (scope.query topology).resolve.targets
              hiddenFilters := [.admitting type] } },
          .done)
  typed : ∀ target capability, scope.preselected = some target →
    topology.OffersOnly scope target capability →
    ∀ id, scope.requirement.relationshipType = some id →
    ∃ required type, TypeFor topology.relationshipTypes (some id) (some required) ∧
      topology.Declares target capability type ∧
      dialog.step .resolve =
        ({ dialog with
            wizard := { Wizard.start scope topology with
              step := 3
              data := {
                relationship := some required
                target := some target
                targetedCapabilityName := some capability
                name := some (defaultName required target) }
              targets := (scope.query topology).resolve.targets
              hiddenFilters := [.admitting type] } },
          .done) ∧
      (dialog.run [.resolve]).step .finish =
        (⟨(dialog.run [.resolve]).wizard.close .finished, dialog.modal.close {
            relationshipType := required
            targetNodeId := target
            targetedCapabilityId := some capability
            name := defaultName required target }⟩,
          .done)
  passed : topology.PassesOver scope →
    ∃ relationship,
      TypeFor topology.relationshipTypes scope.requirement.relationshipType relationship ∧
      dialog.step .resolve =
        ({ dialog with
            wizard := { Wizard.start scope topology with
              data := { relationship }
              targets := (scope.query topology).resolve.targets } },
          .done)

theorem opens_as_offered (scope : Scope) (topology : Topology) :
    ∃ launched, Wizard.launch scope topology inProcess true = .ok launched ∧
      OpensAsOffered scope topology { wizard := launched } := by
  refine ⟨(asking scope topology).wizard, rfl, ?_⟩
  change OpensAsOffered scope topology (asking scope topology)
  have same : ∀ actions, ((asking scope topology).run actions).wizard.topology = topology :=
    run_topology (asking scope topology)
  constructor
  · intro actions action settles
    have remains := run_remains (inProcess (scope.query topology)) (asking scope topology) actions
      rfl rfl
    exact settles_applied _ _ actions remains action settles _ rfl
  · intro actions action applied template capability preferred
    have selected := step_preferred ((asking scope topology).run actions) action scope
    rw [same] at selected
    rw [run_concat]
    exact selected applied template capability preferred
  · intro actions action applied
    rw [run_concat]
    exact (step_applied_offers _ action _ applied).1
  · exact only_or_passed topology scope
  · intro target capability wanted only unnamed
    obtain ⟨type, declared, resolved⟩ :=
      asking_resolved_only scope topology target capability wanted only
    simp only [Topology.requiredType?, unnamed] at resolved
    exact ⟨type, (declares_iff _ _ _ _).mpr declared, resolved⟩
  · intro target capability wanted only id named
    obtain ⟨type, declared, resolved⟩ :=
      asking_resolved_only scope topology target capability wanted only
    simp only [Topology.requiredType?, named] at resolved
    refine ⟨relationshipTypeOf topology.relationshipTypes id, type, (type_for_iff _ _ _).mpr rfl,
      (declares_iff _ _ _ _).mpr declared, resolved, ?_⟩
    have after : (asking scope topology).run [.resolve] = _ := congrArg Prod.fst resolved
    rw [after]
    rfl
  · intro passes
    refine ⟨topology.requiredType? scope, (type_for_iff _ _ _).mpr rfl, ?_⟩
    rw [asking_resolved, start_applied_passed topology scope passes]
    rfl

end WizardDialog

end Wiring
