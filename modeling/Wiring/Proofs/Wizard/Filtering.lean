import Wiring.Proofs.LookUps
import Wiring.Proofs.Wizard.Arrival
import Wiring.Proofs.Wizard.History

/-!
Which types a wizard offers. A selected capability puts one filter in force, on the
type that the topology declares for it, and the filter stays until another
capability is selected; the candidates are the types that it lets through.
-/

namespace Wiring

def HiddenFilter.admitting (type : String) : HiddenFilter where
  term := "validTargets"
  facet := [type]

theorem admitting_accepts_iff (type : String) (candidate : RelationshipType) :
    (HiddenFilter.admitting type).accepts candidate = true ↔ type ∈ candidate.validTargets := by
  simp [HiddenFilter.admitting, HiddenFilter.accepts, HiddenFilter.validTargets]

/-- A list holds the relationship types that are admitted, in the order of their names. -/
def Topology.Lists (topology : Topology) (admitted : RelationshipType → Prop)
    (listed : List RelationshipType) : Prop :=
  ∃ entries, InNameOrder entries ∧ listed = entries.map Prod.snd ∧
    ∀ name type, (name, type) ∈ entries ↔
      topology.relationshipTypes.find? name = some type ∧ admitted type

namespace Wizard

theorem look_up_capability_iff (wizard : Wizard) (target capability type : String) :
    wizard.lookUpCapability target capability = .ok type ↔
      wizard.topology.capabilityType? target capability = some type := by
  unfold lookUpCapability Topology.capabilityType?
  cases wizard.topology.nodeTemplates.find? target with
  | none => simp
  | some template => cases found : template.capabilityType? capability <;> simp [found]

theorem filters_for_iff (wizard : Wizard) (target capability : String)
    (filters : List HiddenFilter) :
    wizard.filtersFor target (some capability) = .ok filters ↔
      ∃ type, wizard.topology.capabilityType? target capability = some type ∧
        filters = [.admitting type] := by
  simp only [filtersFor, ← look_up_capability_iff]
  cases wizard.lookUpCapability target capability with
  | error error => simp [bind, Except.bind]
  | ok type =>
      simp [bind, Except.bind, pure, Except.pure, HiddenFilter.admitting,
        HiddenFilter.validTargets, eq_comm]

theorem filters_for_failed_iff (wizard : Wizard) (target : String) (capability : Option String)
    (error : FlowError) :
    wizard.filtersFor target capability = .error error ↔ ∃ id, capability = some id ∧
      (wizard.topology.nodeTemplates.find? target = none ∧ error = .unknownNodeTemplate target ∨
        ∃ template, wizard.topology.nodeTemplates.find? target = some template ∧
          template.capabilities.find? id = none ∧ error = .unknownCapability target id) := by
  cases capability with
  | none => simp [filtersFor]
  | some id =>
      simp only [filtersFor, lookUpCapability, NodeTemplate.capabilityType?]
      cases wizard.topology.nodeTemplates.find? target with
      | none => simp [bind, Except.bind, eq_comm]
      | some template =>
          cases found : template.capabilities.find? id <;>
            simp [found, bind, Except.bind, pure, Except.pure, eq_comm]

/-- No choice of target is refused but for its capability. -/
theorem filters_for_declared (wizard : Wizard) (target : String) (capability : Option String)
    (declared : ∀ id, capability = some id →
      ∃ type, wizard.topology.capabilityType? target id = some type) :
    ∃ filters, wizard.filtersFor target capability = .ok filters := by
  cases capability with
  | none => exact ⟨wizard.hiddenFilters, rfl⟩
  | some id =>
      obtain ⟨type, known⟩ := declared id rfl
      exact ⟨_, (filters_for_iff wizard target id _).mpr ⟨type, known, rfl⟩⟩

def preselected? (wizard : Wizard) (resolved : ResolvedTargets) : Option (String × String) :=
  if wizard.preselects resolved then do
    let preferred ← resolved.preferredMatch
    let capability ← preferred.capabilities.head?
    return (preferred.template.name, capability.id)
  else none

def selectedCapability? (wizard : Wizard) : WizardDialog.Action → Option (String × String)
  | .selectTarget target (some capability) =>
      if (wizard.selectTarget target (some capability)).isOk then some (target, capability)
      else none
  | action => (wizard.applied? action).bind wizard.preselected?

def selectsCapability (wizard : Wizard) (action : WizardDialog.Action) : Bool :=
  (wizard.selectedCapability? action).isSome

/-- The capability of the target, if one is chosen, is there and its type is the one filtered for. -/
def Targeting (wizard : Wizard) : Prop :=
  ∀ capability, wizard.data.targetedCapabilityName = some capability →
    ∃ target type, wizard.data.target = some target ∧
      wizard.topology.capabilityType? target capability = some type ∧
      wizard.hiddenFilters = [.admitting type]

theorem targeted_targeting (wizard : Wizard) (target : String) (capability : Option String)
    (filters : List HiddenFilter) (known : wizard.filtersFor target capability = .ok filters) :
    Targeting (wizard.targeted target capability filters) := by
  rintro chosen ⟨rfl⟩
  obtain ⟨type, declared, rfl⟩ := (filters_for_iff _ _ _ _).mp known
  exact ⟨target, type, rfl, declared, rfl⟩

theorem turn_targeting (wizard after : Wizard) (turn : Turn wizard after)
    (targeting : Targeting wizard) : Targeting after := by
  cases turn with
  | targeted target capability filters active known =>
      exact targeted_targeting wizard target capability filters known
  | _ => exact targeting

theorem turn_topology (wizard after : Wizard) (turn : Turn wizard after) :
    after.topology = wizard.topology := by
  cases turn <;> rfl

theorem turns_topology (wizard after : Wizard) (turns : Turns wizard after) :
    after.topology = wizard.topology := by
  refine turns_keep (fun current => current.topology = wizard.topology) ?_ _ _ turns rfl
  intro before next turn same
  exact (turn_topology before next turn).trans same

theorem preselected_some_iff (wizard : Wizard) (resolved : ResolvedTargets)
    (target capability : String) :
    wizard.preselected? resolved = some (target, capability) ↔
      wizard.preselects resolved = true ∧ ∃ matched : MatchedCapability, matched.id = capability ∧
        resolved.preferredMatch = some { template := ⟨target⟩, capabilities := [matched] } := by
  rcases apply_resolved_cases wizard resolved with
    ⟨unselected, _⟩ | ⟨preselects, wanted, offered, _, preferred, _, _, _⟩
  · simp [preselected?, unselected]
  · simp [preselected?, preselects, preferred, and_comm]

/-- A preferred match that leaves no choice of capability gets selected if the topology has it. -/
theorem preselects_iff (wizard : Wizard) (resolved : ResolvedTargets) (target : String)
    (matched : MatchedCapability) (active : wizard.closed = false)
    (preferred : resolved.preferredMatch =
      some { template := ⟨target⟩, capabilities := [matched] }) :
    wizard.preselects resolved = true ↔
      ∃ type, wizard.topology.capabilityType? target matched.id = some type := by
  rcases apply_resolved_cases wizard resolved with
    ⟨unselected, _⟩ | ⟨preselects, _, _, filters, same, _, known, _⟩
  · rw [unselected]
    refine iff_of_false Bool.false_ne_true ?_
    rintro ⟨type, declared⟩
    -- A look-up that succeeds would have let the selection through.
    let stored := wizard.store resolved
    have known : stored.filtersFor target (some matched.id) = .ok [.admitting type] :=
      (filters_for_iff stored target matched.id _).mpr ⟨type, declared, rfl⟩
    have selected := (select_target_iff stored _ target (some matched.id)).mpr
      ⟨active, _, known, rfl⟩
    simp only [preselects, preferred] at unselected
    change (stored.selectTarget target (some matched.id)).isOk = false at unselected
    rw [selected] at unselected
    cases unselected
  · cases preferred.symm.trans same
    obtain ⟨type, declared, _⟩ := (filters_for_iff _ _ _ _).mp known
    exact iff_of_true preselects ⟨type, declared⟩

theorem preselected_targeted (wizard : Wizard) (resolved : ResolvedTargets)
    (target capability : String)
    (selected : wizard.preselected? resolved = some (target, capability)) :
    ∃ filters, wizard.filtersFor target (some capability) = .ok filters ∧
      wizard.applyResolved resolved =
        (wizard.store resolved).targeted target (some capability) filters := by
  obtain ⟨preselects, matched, rfl, preferred⟩ := (preselected_some_iff _ _ _ _).mp selected
  rcases apply_resolved_cases wizard resolved with
    ⟨unselected, _⟩ | ⟨_, wanted, offered, filters, same, _, known, applied⟩
  · cases unselected.symm.trans preselects
  · cases preferred.symm.trans same
    exact ⟨filters, known, applied⟩

theorem unselected_stored (wizard : Wizard) (resolved : ResolvedTargets)
    (unselected : wizard.preselected? resolved = none) :
    wizard.applyResolved resolved = wizard.store resolved := by
  rcases apply_resolved_cases wizard resolved with
    ⟨_, same⟩ | ⟨preselects, wanted, offered, filters, preferred, _, _, _⟩
  · exact same
  · simp [preselected?, preselects, preferred] at unselected

theorem unselected_filters (wizard : Wizard) (resolved : ResolvedTargets)
    (unselected : wizard.preselected? resolved = none) :
    (wizard.applyResolved resolved).hiddenFilters = wizard.hiddenFilters := by
  rw [unselected_stored wizard resolved unselected]
  rfl

theorem candidates_listed (wizard : Wizard) :
    wizard.topology.Lists (fun type => ∀ filter ∈ wizard.hiddenFilters, filter.accepts type = true)
      wizard.candidates := by
  let admitted (entry : String × RelationshipType) : Bool :=
    wizard.hiddenFilters.all fun filter => filter.accepts entry.2
  refine ⟨wizard.topology.relationshipTypes.entries.filter admitted, ?_, ?_, ?_⟩
  · exact wizard.topology.relationshipTypes.ordered.filter admitted
  · rw [candidates, NameMap.values, List.filter_map]
    rfl
  · intro name type
    rw [List.mem_filter, NameMap.mem_entries_iff]
    simp only [admitted, List.all_eq_true]

theorem candidates_unfiltered (wizard : Wizard) (unfiltered : wizard.hiddenFilters = []) :
    wizard.topology.Lists (fun _ => True) wizard.candidates := by
  have listed := candidates_listed wizard
  simpa only [unfiltered, List.not_mem_nil, false_implies, implies_true] using listed

theorem candidates_filtered (wizard : Wizard) (type : String)
    (filtered : wizard.hiddenFilters = [.admitting type]) :
    wizard.topology.Lists (fun candidate => type ∈ candidate.validTargets) wizard.candidates := by
  have listed := candidates_listed wizard
  simpa only [filtered, List.mem_singleton, forall_eq, admitting_accepts_iff] using listed

end Wizard

namespace WizardDialog

open Wizard

theorem step_selected_capability (dialog : WizardDialog) (action : Action)
    (target capability : String)
    (selected : dialog.wizard.selectedCapability? action = some (target, capability)) :
    ∃ type, dialog.wizard.topology.capabilityType? target capability = some type ∧
      (dialog.step action).1.wizard.hiddenFilters = [.admitting type] := by
  have preselected : (dialog.wizard.applied? action).bind dialog.wizard.preselected? =
      some (target, capability) → ∃ filters,
        dialog.wizard.filtersFor target (some capability) = .ok filters ∧
        (dialog.step action).1.wizard.hiddenFilters = filters := by
    intro chosen
    obtain ⟨resolved, applied, chosen⟩ := Option.bind_eq_some_iff.mp chosen
    obtain ⟨filters, known, same⟩ := preselected_targeted _ resolved _ _ chosen
    obtain ⟨pending, after⟩ := step_applied dialog action resolved applied
    exact ⟨filters, known, by rw [after, same]; rfl⟩
  have direct : ∃ filters, dialog.wizard.filtersFor target (some capability) = .ok filters ∧
      (dialog.step action).1.wizard.hiddenFilters = filters := by
    cases action with
    | selectTarget wanted offered =>
        cases offered with
        | none => exact preselected selected
        | some offered =>
            simp only [selectedCapability?, Option.ite_none_right_eq_some, Option.some.injEq,
              Prod.mk.injEq] at selected
            obtain ⟨accepted, rfl, rfl⟩ := selected
            cases chosen : dialog.wizard.selectTarget wanted (some offered) with
            | error error => simp [chosen, Except.isOk, Except.toBool] at accepted
            | ok after =>
                obtain ⟨_, filters, known, rfl⟩ := (select_target_iff _ _ _ _).mp chosen
                refine ⟨filters, known, ?_⟩
                simp only [step, chosen, attempt, targeted]
    | _ => exact preselected selected
  obtain ⟨filters, known, same⟩ := direct
  obtain ⟨type, declared, rfl⟩ := (filters_for_iff _ _ _ _).mp known
  exact ⟨type, declared, same⟩

theorem step_unselected_capability (dialog : WizardDialog) (action : Action)
    (unselected : dialog.wizard.selectsCapability action = false) :
    (dialog.step action).1.wizard.hiddenFilters = dialog.wizard.hiddenFilters := by
  rw [selectsCapability, Option.isSome_eq_false_iff, Option.isNone_iff_eq_none] at unselected
  rcases action.kinds with aside | choosing | answering
  · obtain ⟨_, _, _, same⟩ := step_aside dialog action aside
    rw [same]
  · rcases step_choosing dialog action choosing with ⟨after, chosen, same⟩ | ⟨error, same⟩
    · rw [same]
      cases chosen with
      | related | named => rfl
      | targeted target capability filters active known =>
          cases capability with
          | none =>
              cases known
              rfl
          | some capability =>
              have taken := (select_target_iff _ _ _ _).mpr ⟨active, filters, known, rfl⟩
              simp [selectedCapability?, taken, Except.isOk, Except.toBool] at unselected
    · rw [same]
  · have unchosen : (dialog.wizard.applied? action).bind dialog.wizard.preselected? = none := by
      cases action with
      | poll | resolve | apply => exact unselected
      | _ => cases answering
    cases applied : dialog.wizard.applied? action with
    | none =>
        obtain ⟨_, _, same⟩ := step_unapplied dialog action answering applied
        rw [same]
    | some resolved =>
        rw [applied, Option.bind_some] at unchosen
        obtain ⟨_, after⟩ := step_applied dialog action resolved applied
        rw [after]
        exact unselected_filters dialog.wizard resolved unchosen

theorem run_unselected_capability (dialog : WizardDialog) (actions : List Action)
    (unselected : Never selectsCapability dialog actions) :
    (dialog.run actions).wizard.hiddenFilters = dialog.wizard.hiddenFilters :=
  never_keeps selectsCapability Wizard.hiddenFilters step_unselected_capability dialog actions
    unselected

theorem run_topology (dialog : WizardDialog) (actions : List Action) :
    (dialog.run actions).wizard.topology = dialog.wizard.topology := by
  refine run_keeps (fun wizard => wizard.topology = dialog.wizard.topology) ?_ ?_ dialog actions rfl
  · intro wizard after turn same
    exact (turn_topology wizard after turn).trans same
  · intro wizard status _ same
    exact same

theorem opened_targeting (scope : Scope) (topology : Topology) (pending : Option Pending)
    (actions : List Action) : Targeting ((opened scope topology pending).run actions).wizard :=
  run_keeps Targeting turn_targeting (fun _ _ _ targeting => targeting)
    (opened scope topology pending) actions nofun

/-- The last capability that is selected in a run, by the user or as a preferred match. -/
def LastCapability (dialog : WizardDialog) (actions : List Action) (target capability : String) :
    Prop :=
  ∃ before action after, actions = before ++ action :: after ∧
    (dialog.run before).wizard.selectedCapability? action = some (target, capability) ∧
    Never selectsCapability (dialog.run (before ++ [action])) after

theorem never_or_last_capability (dialog : WizardDialog) (actions : List Action) :
    Never selectsCapability dialog actions ∨
      ∃ target capability, LastCapability dialog actions target capability := by
  rcases never_or_last_read selectedCapability? dialog actions with
    never | ⟨⟨target, capability⟩, last⟩
  · exact .inl never
  · exact .inr ⟨target, capability, last⟩

theorem last_capability_filters (dialog : WizardDialog) (actions : List Action)
    (target capability : String) (last : LastCapability dialog actions target capability) :
    ∃ type, dialog.wizard.topology.capabilityType? target capability = some type ∧
      (dialog.run actions).wizard.hiddenFilters = [.admitting type] := by
  obtain ⟨before, action, after, rfl, selected, never⟩ := last
  obtain ⟨type, declared, filters⟩ := step_selected_capability _ action _ _ selected
  rw [run_topology] at declared
  have kept := run_unselected_capability _ after never
  rw [run_cut, run_concat, filters] at kept
  exact ⟨type, declared, kept⟩

structure FiltersAgree (topology : Topology) (dialog : WizardDialog) (actions : List Action) :
    Prop where
  selected : Never selectsCapability dialog actions ∨
    ∃ target capability, LastCapability dialog actions target capability
  unfiltered : Never selectsCapability dialog actions →
    (dialog.run actions).wizard.hiddenFilters = []
  filtered : ∀ target capability, LastCapability dialog actions target capability →
    ∃ type, topology.Declares target capability type ∧
      (dialog.run actions).wizard.hiddenFilters = [.admitting type]
  targeting : ∀ capability,
    (dialog.run actions).wizard.data.targetedCapabilityName = some capability →
    ∃ target type, (dialog.run actions).wizard.data.target = some target ∧
      topology.Declares target capability type ∧
      (dialog.run actions).wizard.hiddenFilters = [.admitting type]
  offersAll : (dialog.run actions).wizard.hiddenFilters = [] →
    topology.Lists (fun _ => True) (dialog.run actions).wizard.candidates
  offersAdmitted : ∀ type, (dialog.run actions).wizard.hiddenFilters = [.admitting type] →
    topology.Lists (fun candidate => type ∈ candidate.validTargets)
      (dialog.run actions).wizard.candidates

theorem filters_agree (scope : Scope) (topology : Topology) (pending : Option Pending)
    (actions : List Action) : FiltersAgree topology (opened scope topology pending) actions := by
  have same : ((opened scope topology pending).run actions).wizard.topology = topology :=
    run_topology _ actions
  constructor
  · exact never_or_last_capability _ actions
  · intro never
    exact run_unselected_capability _ actions never
  · intro target capability last
    obtain ⟨type, declared, filtered⟩ := last_capability_filters _ actions target capability last
    exact ⟨type, (declares_iff _ _ _ _).mpr declared, filtered⟩
  · intro capability chosen
    obtain ⟨target, type, targeted, declared, filtered⟩ :=
      opened_targeting scope topology pending actions capability chosen
    rw [same] at declared
    exact ⟨target, type, targeted, (declares_iff _ _ _ _).mpr declared, filtered⟩
  · intro unfiltered
    have listed := candidates_unfiltered _ unfiltered
    rwa [same] at listed
  · intro type filtered
    have listed := candidates_filtered _ type filtered
    rwa [same] at listed

end WizardDialog

end Wiring
