import Wiring.Proofs.Wizard.Arrival
import Wiring.Proofs.Wizard.History

/-!
Where the name of a relationship comes from. A selection, also one made for a
preferred match, derives the name from the type and the target. A type that comes
with an answer replaces the one before and leaves the name alone, so the name is
the derived one exactly if the last store was a selection or the name before it
happened to fit.
-/

namespace Wiring

theorem is_ok_iff (result : Except ε α) : result.isOk = true ↔ ∃ value, result = .ok value := by
  cases result <;> simp [Except.isOk, Except.toBool]

namespace Wizard

def selects (wizard : Wizard) : WizardDialog.Action → Bool
  | .selectRelationship type => (wizard.selectRelationship type).isOk
  | .selectTarget target capability => (wizard.selectTarget target capability).isOk
  | action => (wizard.applied? action).any wizard.preselects

def adopts (wizard : Wizard) (action : WizardDialog.Action) : Bool :=
  (wizard.applied? action).any fun resolved => resolved.relationshipType.isSome

def stores (wizard : Wizard) (action : WizardDialog.Action) : Bool :=
  wizard.selects action || wizard.adopts action

def names (wizard : Wizard) : WizardDialog.Action → Bool
  | .setName name => (wizard.setName name).isOk
  | _ => false

def Coherent (data : RelationshipChoice) : Prop :=
  ∀ type target, data.relationship = some type → data.target = some target →
    data.name = some (defaultName type target)

theorem selects_applied (wizard : Wizard) (action : WizardDialog.Action)
    (resolved : ResolvedTargets) (applied : wizard.applied? action = some resolved) :
    wizard.selects action = wizard.preselects resolved ∧
      wizard.adopts action = resolved.relationshipType.isSome := by
  have adopted : wizard.adopts action = resolved.relationshipType.isSome := by
    rw [adopts, applied, Option.any_some]
  refine ⟨?_, adopted⟩
  obtain ⟨_, received⟩ := (applied_iff wizard action resolved).mp applied
  cases action with
  | selectRelationship | selectTarget => cases received
  | _ => rw [selects, applied, Option.any_some] <;> nofun

theorem related_coherent (wizard : Wizard) (type : RelationshipType) :
    Coherent (wizard.related type).data := by
  rintro _ target ⟨rfl⟩ known
  have kept : wizard.data.target = some target := known
  simp [related, kept]

theorem targeted_coherent (wizard : Wizard) (target : String) (capability : Option String)
    (filters : List HiddenFilter) : Coherent (wizard.targeted target capability filters).data := by
  rintro type _ known ⟨rfl⟩
  have kept : wizard.data.relationship = some type := known
  simp [targeted, kept]

end Wizard

namespace WizardDialog

open Wizard

theorem step_selected (dialog : WizardDialog) (action : Action)
    (selected : dialog.wizard.selects action = true) :
    Coherent (dialog.step action).1.wizard.data := by
  have preselected : ∀ resolved, dialog.wizard.applied? action = some resolved →
      Coherent (dialog.step action).1.wizard.data := by
    intro resolved applied
    obtain ⟨pending, after⟩ := step_applied dialog action resolved applied
    rw [(selects_applied _ _ _ applied).1] at selected
    rw [after]
    rcases apply_resolved_cases dialog.wizard resolved with
      ⟨kept, _⟩ | ⟨_, target, capability, filters, _, _, _, same⟩
    · cases kept.symm.trans selected
    · exact same ▸ targeted_coherent _ target (some capability.id) filters
  cases action with
  | selectRelationship type =>
      obtain ⟨after, chosen⟩ := (is_ok_iff _).mp selected
      obtain ⟨_, rfl⟩ := (select_relationship_iff _ _ _).mp chosen
      simpa only [step, chosen, attempt] using related_coherent dialog.wizard type
  | selectTarget target capability =>
      obtain ⟨after, chosen⟩ := (is_ok_iff _).mp selected
      obtain ⟨_, filters, _, rfl⟩ := (select_target_iff _ _ _ _).mp chosen
      simpa only [step, chosen, attempt] using
        targeted_coherent dialog.wizard target capability filters
  | _ =>
      obtain ⟨resolved, applied, _⟩ := (Option.any_eq_true _ _).mp selected
      exact preselected resolved applied

theorem step_stored (dialog : WizardDialog) (action : Action) (resolved : ResolvedTargets)
    (applied : dialog.wizard.applied? action = some resolved)
    (unselected : dialog.wizard.preselects resolved = false) :
    (dialog.step action).1.wizard.data =
      { dialog.wizard.data with
        relationship := resolved.relationshipType.or dialog.wizard.data.relationship } := by
  obtain ⟨pending, after⟩ := step_applied dialog action resolved applied
  rw [after]
  rcases apply_resolved_cases dialog.wizard resolved with ⟨_, same⟩ | ⟨preselects, _⟩
  · exact congrArg Wizard.data same
  · cases unselected.symm.trans preselects

theorem step_adopted (dialog : WizardDialog) (action : Action)
    (stored : dialog.wizard.stores action = true)
    (unselected : dialog.wizard.selects action = false) :
    (dialog.step action).1.wizard.data.name = dialog.wizard.data.name := by
  have adopted : dialog.wizard.adopts action = true := by
    simpa only [stores, unselected, Bool.false_or] using stored
  obtain ⟨resolved, applied, _⟩ := (Option.any_eq_true _ _).mp adopted
  rw [(selects_applied _ _ _ applied).1] at unselected
  rw [step_stored dialog action resolved applied unselected]

theorem step_answered (dialog : WizardDialog) (action : Action)
    (answering : action.answering = true) (unstored : dialog.wizard.stores action = false) :
    (dialog.step action).1.wizard.data = dialog.wizard.data := by
  cases applied : dialog.wizard.applied? action with
  | none =>
      obtain ⟨_, _, same⟩ := step_unapplied dialog action answering applied
      rw [same]
  | some resolved =>
      obtain ⟨selects, adopts⟩ := selects_applied _ _ _ applied
      rw [stores, selects, adopts, Bool.or_eq_false_iff, Option.isSome_eq_false_iff,
        Option.isNone_iff_eq_none] at unstored
      rw [step_stored dialog action resolved applied unstored.1, unstored.2, Option.none_or]

theorem step_kept (dialog : WizardDialog) (action : Action)
    (unstored : dialog.wizard.stores action = false)
    (unnamed : dialog.wizard.names action = false) :
    (dialog.step action).1.wizard.data = dialog.wizard.data := by
  rcases action.kinds with aside | choosing | answering
  · obtain ⟨_, _, _, same⟩ := step_aside dialog action aside
    rw [same]
  · cases action with
    | selectRelationship type =>
        cases chosen : dialog.wizard.selectRelationship type with
        | error error => simp only [step, chosen, attempt]
        | ok after => simp [stores, selects, chosen, Except.isOk, Except.toBool] at unstored
    | selectTarget target capability =>
        cases chosen : dialog.wizard.selectTarget target capability with
        | error error => simp only [step, chosen, attempt]
        | ok after => simp [stores, selects, chosen, Except.isOk, Except.toBool] at unstored
    | setName name =>
        cases given : dialog.wizard.setName name with
        | error error => simp only [step, given, attempt]
        | ok after => simp [names, given, Except.isOk, Except.toBool] at unnamed
    | _ => cases choosing
  · exact step_answered dialog action answering unstored

theorem step_unstored (dialog : WizardDialog) (action : Action)
    (unstored : dialog.wizard.stores action = false) :
    (dialog.step action).1.wizard.data.relationship = dialog.wizard.data.relationship ∧
      (dialog.step action).1.wizard.data.target = dialog.wizard.data.target := by
  cases given : dialog.wizard.names action with
  | false => simp only [step_kept dialog action unstored given, and_self]
  | true =>
      cases action with
      | setName name =>
          obtain ⟨after, accepted⟩ := (is_ok_iff _).mp given
          obtain ⟨_, rfl⟩ := (set_name_iff _ _ _).mp accepted
          simp only [step, accepted, attempt, named, and_self]
      | _ => cases given

theorem run_unstored (dialog : WizardDialog) (actions : List Action)
    (unstored : Never Wizard.stores dialog actions) :
    (dialog.run actions).wizard.data.relationship = dialog.wizard.data.relationship ∧
      (dialog.run actions).wizard.data.target = dialog.wizard.data.target ∧
      (Never names dialog actions → (dialog.run actions).wizard.data = dialog.wizard.data) := by
  induction actions generalizing dialog with
  | nil => exact ⟨rfl, rfl, fun _ => rfl⟩
  | cons action rest ih =>
      obtain ⟨type, target⟩ := step_unstored dialog action unstored.1
      obtain ⟨types, targets, kept⟩ := ih (dialog.step action).1 unstored.2
      refine ⟨types.trans type, targets.trans target, fun unnamed => ?_⟩
      exact (kept unnamed.2).trans (step_kept dialog action unstored.1 unnamed.1)

def LastStore (dialog : WizardDialog) (actions before : List Action) (action : Action)
    (after : List Action) : Prop :=
  actions = before ++ action :: after ∧ (dialog.run before).wizard.stores action = true ∧
    Never Wizard.stores (dialog.run (before ++ [action])) after

theorem never_or_last_store (dialog : WizardDialog) (actions : List Action) :
    Never Wizard.stores dialog actions ∨
      ∃ before action after, LastStore dialog actions before action after :=
  never_or_last Wizard.stores dialog actions

/-- The name that the last store of a run leaves for a type and a target. A selection derives it;
a type that an answer brings takes it over as it was, whatever type or target it was made for. -/
def NameFromLastStore (dialog : WizardDialog) (actions : List Action) (type : RelationshipType)
    (target : String) : Prop :=
  ∃ before action after, LastStore dialog actions before action after ∧
    (Never names (dialog.run (before ++ [action])) after →
      (dialog.run actions).wizard.data.name =
        (if (dialog.run before).wizard.selects action then some (defaultName type target)
        else (dialog.run before).wizard.data.name) ∧
      ((dialog.run actions).wizard.data.name = some (defaultName type target) ↔
        (dialog.run before).wizard.selects action = true ∨
          (dialog.run before).wizard.data.name = some (defaultName type target)))

theorem name_from_last_store (scope : Scope) (topology : Topology) (pending : Option Pending)
    (actions : List Action) (type : RelationshipType) (target : String)
    (related : ((opened scope topology pending).run actions).wizard.data.relationship = some type)
    (targeted : ((opened scope topology pending).run actions).wizard.data.target = some target) :
    NameFromLastStore (opened scope topology pending) actions type target := by
  rcases never_or_last_store (opened scope topology pending) actions with
    never | ⟨before, action, after, rfl, stores, never⟩
  · -- Nothing has been stored, so there is no type yet.
    have untyped := (run_unstored _ actions never).1
    cases related.symm.trans untyped
  · refine ⟨before, action, after, ⟨rfl, stores, never⟩, fun unnamed => ?_⟩
    obtain ⟨_, _, kept⟩ := run_unstored _ after never
    have same := kept unnamed
    rw [← run_append, List.append_assoc, List.singleton_append] at same
    rw [same, run_concat] at related targeted ⊢
    cases selected : ((opened scope topology pending).run before).wizard.selects action with
    | true =>
        have derived := step_selected _ action selected type target related targeted
        exact ⟨derived, iff_of_true derived (.inl rfl)⟩
    | false =>
        have adopted := step_adopted _ action stores selected
        simp [adopted]

def hosting : Scope where
  source := "app"
  requirementName := "host"
  requirement := { type := "container", relationshipType := some "a.b.HostedOn" }

def asked : Option Pending :=
  some { ending := some (.answered (Resolver.inProcess.answer (hosting.query default))) }

def overtaken : List Action := [
  .selectRelationship { elementId := "a.b.ConnectsTo" }, .selectTarget "server" none,
  .arrive, .poll]

theorem name_outlives_type :
    NameFromLastStore (opened hosting default asked) overtaken { elementId := "a.b.HostedOn" }
        "server" ∧
      ((opened hosting default asked).run overtaken).wizard.data.name =
        some "connectsToServer" ∧
      defaultName { elementId := "a.b.HostedOn" } "server" = "hostedOnServer" :=
  ⟨name_from_last_store hosting default asked overtaken _ _ rfl rfl, by decide, by decide⟩

end WizardDialog

end Wiring
