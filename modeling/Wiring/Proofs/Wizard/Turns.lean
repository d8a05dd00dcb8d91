import Mathlib.Logic.Relation
import Wiring.Wizard

/-!
What an operation can do to a dialog. It ends the dialog, or its wizard takes
finitely many turns: a `Turn` is one of the few changes that there are. So what the
turns and an end preserve holds throughout every run.
-/

namespace Wiring

namespace Wizard

def related (wizard : Wizard) (type : RelationshipType) : Wizard :=
  { wizard with
    step := wizard.step + 1
    data := { wizard.data with
      relationship := some type
      name := wizard.data.target.map (defaultName type) } }

def targeted (wizard : Wizard) (target : String) (capability : Option String)
    (hiddenFilters : List HiddenFilter) : Wizard :=
  { wizard with
    hiddenFilters
    step := wizard.step + if wizard.data.relationship.isSome then 2 else 1
    data := { wizard.data with
      target := some target
      targetedCapabilityName := capability
      name := (wizard.data.relationship.map (defaultName · target)).or wizard.data.name } }

def named (wizard : Wizard) (name : String) : Wizard :=
  { wizard with
    data := { wizard.data with
      name :=
        if name ≠ "" ∧ wizard.data.relationship.isSome ∧ wizard.data.target.isSome then some name
        else none } }

theorem select_relationship_iff (wizard after : Wizard) (type : RelationshipType) :
    wizard.selectRelationship type = .ok after ↔
      wizard.closed = false ∧ after = wizard.related type := by
  unfold selectRelationship
  cases wizard.closed with
  | true => simp
  | false =>
      cases target : wizard.data.target <;>
        simp [related, refreshName, advance, target, eq_comm]

theorem select_target_iff (wizard after : Wizard) (target : String) (capability : Option String) :
    wizard.selectTarget target capability = .ok after ↔
      wizard.closed = false ∧ ∃ filters, wizard.filtersFor target capability = .ok filters ∧
        after = wizard.targeted target capability filters := by
  unfold selectTarget
  cases wizard.closed with
  | true => simp
  | false =>
      cases known : wizard.filtersFor target capability with
      | error error => simp [bind, Except.bind]
      | ok filters =>
          cases type : wizard.data.relationship <;>
            simp [bind, Except.bind, pure, Except.pure, targeted, refreshName, advance, type,
              eq_comm]

theorem set_name_iff (wizard after : Wizard) (name : String) :
    wizard.setName name = .ok after ↔ wizard.closed = false ∧ after = wizard.named name := by
  unfold setName
  cases wizard.closed with
  | true => simp
  | false => simp [named, @eq_comm _ after]

def preselects (wizard : Wizard) (resolved : ResolvedTargets) : Bool :=
  match resolved.preferredMatch with
  | some { template, capabilities := [capability] } =>
      ((wizard.store resolved).selectTarget template.name (some capability.id)).isOk
  | _ => false

theorem apply_resolved_cases (wizard : Wizard) (resolved : ResolvedTargets) :
    wizard.preselects resolved = false ∧ wizard.applyResolved resolved = wizard.store resolved ∨
      wizard.preselects resolved = true ∧ ∃ target capability filters,
        resolved.preferredMatch = some { template := ⟨target⟩, capabilities := [capability] } ∧
          wizard.closed = false ∧
          wizard.filtersFor target (some capability.id) = .ok filters ∧
          wizard.applyResolved resolved =
            (wizard.store resolved).targeted target (some capability.id) filters := by
  unfold applyResolved preselects preselect
  rcases resolved.preferredMatch with _ | ⟨template, _ | ⟨capability, _ | ⟨another, rest⟩⟩⟩
  · exact Or.inl ⟨rfl, rfl⟩
  · exact Or.inl ⟨rfl, rfl⟩
  · cases selected : (wizard.store resolved).selectTarget template.name (some capability.id) with
    | error error =>
        simp only [selected]
        exact Or.inl ⟨rfl, trivial⟩
    | ok chosen =>
        obtain ⟨active, filters, known, same⟩ := (select_target_iff _ _ _ _).mp selected
        simp only [selected]
        exact Or.inr ⟨rfl, template.name, capability, filters, rfl, active, known, same⟩
  · exact Or.inl ⟨rfl, rfl⟩

/-- One change of a wizard, but for its end. A closed one can only move between the steps and
wait. -/
inductive Turn (wizard : Wizard) : Wizard → Prop where
  | related (type : RelationshipType) (active : wizard.closed = false) :
      Turn wizard (wizard.related type)
  | targeted (target : String) (capability : Option String) (filters : List HiddenFilter)
      (active : wizard.closed = false) (known : wizard.filtersFor target capability = .ok filters) :
      Turn wizard (wizard.targeted target capability filters)
  | named (name : String) (active : wizard.closed = false) : Turn wizard (wizard.named name)
  | next (below : wizard.step < totalSteps) : Turn wizard { wizard with step := wizard.step + 1 }
  | back (above : 1 < wizard.step) : Turn wizard { wizard with step := wizard.step - 1 }
  | waited (pending : Option Pending) : Turn wizard { wizard with pending }
  | stored (resolved : ResolvedTargets) (active : wizard.closed = false) :
      Turn wizard (wizard.store resolved)
  | failed (message : String) (active : wizard.closed = false) :
      Turn wizard { wizard with resolutionError := some message }

abbrev Turns : Wizard → Wizard → Prop := Relation.ReflTransGen Turn

inductive Chosen (wizard : Wizard) : WizardDialog.Action → Wizard → Prop where
  | related (type : RelationshipType) (active : wizard.closed = false) :
      Chosen wizard (.selectRelationship type) (wizard.related type)
  | targeted (target : String) (capability : Option String) (filters : List HiddenFilter)
      (active : wizard.closed = false) (known : wizard.filtersFor target capability = .ok filters) :
      Chosen wizard (.selectTarget target capability) (wizard.targeted target capability filters)
  | named (name : String) (active : wizard.closed = false) :
      Chosen wizard (.setName name) (wizard.named name)

theorem chosen_turn (wizard after : Wizard) (action : WizardDialog.Action)
    (chosen : Chosen wizard action after) : Turn wizard after := by
  cases chosen with
  | related type active => exact .related type active
  | targeted target capability filters active known =>
      exact .targeted target capability filters active known
  | named name active => exact .named name active

theorem turns_keep (property : Wizard → Prop)
    (turned : ∀ wizard after, Turn wizard after → property wizard → property after)
    (wizard after : Wizard) (turns : Turns wizard after) (holds : property wizard) :
    property after := by
  induction turns with
  | refl => exact holds
  | tail _ last kept => exact turned _ _ last kept

theorem turn_status (wizard after : Wizard) (turn : Turn wizard after) :
    after.status = wizard.status := by
  cases turn <;> rfl

theorem turns_closed (wizard after : Wizard) (turns : Turns wizard after) :
    after.closed = wizard.closed := by
  refine turns_keep (fun current => current.closed = wizard.closed) ?_ _ _ turns rfl
  intro before next turn same
  rw [← same, closed, closed, turn_status before next turn]

theorem turn_closed (wizard after : Wizard) (turn : Turn wizard after)
    (closed : wizard.closed = true) : after.closed = true ∧ after.data = wizard.data := by
  refine ⟨(turns_closed _ _ (.single turn)).trans closed, ?_⟩
  cases turn with
  | next | back | waited => rfl
  | related _ active | targeted _ _ _ active | named _ active | stored _ active
  | failed _ active => cases active.symm.trans closed

theorem apply_resolved_turns (wizard : Wizard) (resolved : ResolvedTargets)
    (active : wizard.closed = false) : Turns wizard (wizard.applyResolved resolved) := by
  have stored : Turns wizard (wizard.store resolved) := .single (.stored resolved active)
  rcases apply_resolved_cases wizard resolved with
    ⟨_, same⟩ | ⟨_, target, capability, filters, _, _, known, same⟩
  · rw [same]
    exact stored
  · rw [same]
    exact stored.tail (.targeted target (some capability.id) filters active known)

theorem apply_answer_turns (wizard : Wizard) (answer : Answer) :
    Turns wizard (wizard.applyAnswer answer).1 := by
  unfold applyAnswer
  cases active : wizard.closed with
  | true => exact .refl
  | false =>
      cases answer with
      | resolved targets => exact apply_resolved_turns wizard targets active
      | failed contexts => exact .single (.failed _ active)

theorem apply_ending_turns (wizard : Wizard) (ending : Ending) :
    Turns wizard (wizard.applyEnding ending).1 := by
  cases ending with
  | answered answer => exact .head (.waited none) (apply_answer_turns _ answer)
  | dropped => exact .single (.waited none)

theorem poll_turns (wizard : Wizard) : Turns wizard wizard.poll.1 := by
  unfold poll
  split
  · exact apply_ending_turns wizard _
  · exact .refl

theorem resolve_turns (wizard : Wizard) : Turns wizard wizard.resolve.1 := by
  unfold resolve
  split
  · exact .refl
  · exact .refl
  · exact apply_ending_turns wizard _

theorem late_confirms (wizard : Wizard) (active : wizard.closed = false) (late : 3 ≤ wizard.step) :
    wizard.phase = .confirm := by
  have status : wizard.status = .active := by simpa [closed] using active
  obtain ⟨steps, more⟩ := Nat.exists_eq_add_of_le' late
  simp only [phase, status, more]

theorem descriptor_iff (wizard : Wizard) (descriptor : RelationshipDescriptor) :
    wizard.descriptor? = some descriptor ↔
      wizard.data = {
        relationship := some descriptor.relationshipType
        target := some descriptor.targetNodeId
        targetedCapabilityName := descriptor.targetedCapabilityId
        name := some descriptor.name } := by
  obtain ⟨type, target, capability, name⟩ := descriptor
  unfold descriptor?
  obtain ⟨relationship, wanted, offered, title⟩ := wizard.data
  cases relationship <;> cases wanted <;> cases title <;>
    simp [RelationshipDescriptor.mk.injEq, and_left_comm]

theorem finish_disabled_iff (wizard : Wizard) :
    wizard.finishDisabled = true ↔ wizard.descriptor? = none := by
  unfold finishDisabled descriptor?
  cases wizard.data.relationship <;> cases wizard.data.target <;> cases wizard.data.name <;> simp

end Wizard

namespace WizardDialog

open Wizard

theorem finish_iff (dialog after : WizardDialog) :
    dialog.finish = .ok after ↔ dialog.wizard.closed = false ∧ ∃ descriptor,
      dialog.wizard.descriptor? = some descriptor ∧
        after = ⟨dialog.wizard.close .finished, dialog.modal.close descriptor⟩ := by
  unfold finish Wizard.finish
  cases dialog.wizard.closed with
  | true => simp [bind, Except.bind]
  | false =>
      cases dialog.wizard.descriptor? with
      | none => simp [bind, Except.bind]
      | some descriptor => simp [bind, Except.bind, pure, Except.pure, Modal.close, eq_comm]

theorem step_poll (dialog : WizardDialog) :
    (dialog.step .poll).1.wizard = dialog.wizard.poll.1 := by
  simp only [step]
  split <;> simp_all

theorem step_resolve (dialog : WizardDialog) :
    (dialog.step .resolve).1.wizard = dialog.wizard.resolve.1 := by
  simp only [step]
  split <;> simp_all

def Action.aside : Action → Bool
  | .next | .back | .finish | .cancel | .take | .arrive => true
  | _ => false

def Action.choosing : Action → Bool
  | .selectRelationship _ | .selectTarget _ _ | .setName _ => true
  | _ => false

def Action.answering : Action → Bool
  | .poll | .resolve | .apply _ => true
  | _ => false

theorem Action.kinds (action : Action) :
    action.aside = true ∨ action.choosing = true ∨ action.answering = true := by
  cases action with
  | selectRelationship | selectTarget | setName => exact .inr (.inl rfl)
  | poll | resolve | apply => exact .inr (.inr rfl)
  | _ => exact .inl rfl

/-- A choice is taken, or it is refused and nothing happens. -/
theorem step_choosing (dialog : WizardDialog) (action : Action) (choosing : action.choosing = true) :
    (∃ after, Chosen dialog.wizard action after ∧
      dialog.step action = ({ dialog with wizard := after }, .done)) ∨
    ∃ error, dialog.step action = (dialog, .failed error) := by
  cases action with
  | selectRelationship type =>
      cases selected : dialog.wizard.selectRelationship type with
      | error error => exact .inr ⟨error, by rw [step, selected]; rfl⟩
      | ok after =>
          obtain ⟨active, rfl⟩ := (select_relationship_iff _ _ _).mp selected
          exact .inl ⟨_, .related type active, by rw [step, selected]; rfl⟩
  | selectTarget target capability =>
      cases selected : dialog.wizard.selectTarget target capability with
      | error error => exact .inr ⟨error, by rw [step, selected]; rfl⟩
      | ok after =>
          obtain ⟨active, filters, known, rfl⟩ := (select_target_iff _ _ _ _).mp selected
          refine .inl ⟨_, .targeted target capability filters active known, ?_⟩
          rw [step, selected]
          rfl
  | setName name =>
      cases given : dialog.wizard.setName name with
      | error error => exact .inr ⟨error, by rw [step, given]; rfl⟩
      | ok after =>
          obtain ⟨active, rfl⟩ := (set_name_iff _ _ _).mp given
          exact .inl ⟨_, .named name active, by rw [step, given]; rfl⟩
  | _ => cases choosing

inductive Ends (dialog : WizardDialog) :
    Action → WizardStatus → Outcome RelationshipDescriptor → Prop where
  | finished {descriptor : RelationshipDescriptor} (active : dialog.wizard.closed = false)
      (complete : dialog.wizard.descriptor? = some descriptor) :
      Ends dialog .finish .finished (.closed descriptor)
  | cancelled (active : dialog.wizard.closed = false) :
      Ends dialog .cancel .cancelled (.dismissed cancelReason)

theorem ends_active (dialog : WizardDialog) (action : Action) (status : WizardStatus)
    (signal : Outcome RelationshipDescriptor) (ends : dialog.Ends action status signal) :
    dialog.wizard.closed = false := by
  cases ends <;> assumption

theorem ends_final (dialog : WizardDialog) (action : Action) (status : WizardStatus)
    (signal : Outcome RelationshipDescriptor) (ends : dialog.Ends action status signal) :
    (dialog.wizard.close status).closed = true := by
  cases ends <;> rfl

def slotAfter (dialog : WizardDialog) : Action → OutcomeSlot RelationshipDescriptor
  | .take => {}
  | _ => dialog.modal

theorem step_cases (dialog : WizardDialog) (action : Action) :
    (∃ status signal, dialog.Ends action status signal ∧
      dialog.step action = (⟨dialog.wizard.close status, dialog.modal.signal signal⟩, .done)) ∨
    (∀ status signal, ¬ dialog.Ends action status signal) ∧
      Turns dialog.wizard (dialog.step action).1.wizard ∧
      (dialog.step action).1.modal = dialog.slotAfter action := by
  by_cases choosing : action.choosing = true
  · refine .inr ⟨?_, ?_⟩
    · intro status signal ends
      cases ends <;> cases choosing
    rcases step_choosing dialog action choosing with ⟨after, chosen, same⟩ | ⟨error, same⟩
    · rw [same]
      refine ⟨.single (chosen_turn _ _ _ chosen), ?_⟩
      cases chosen <;> rfl
    · rw [same]
      refine ⟨.refl, ?_⟩
      cases action with
      | take => cases choosing
      | _ => rfl
  cases action with
  | selectRelationship | selectTarget | setName => exact absurd rfl choosing
  | next =>
      refine .inr ⟨nofun, ?_, rfl⟩
      simp only [step, Wizard.next]
      split
      · rename_i below
        exact .single (.next below)
      · exact .refl
  | back =>
      refine .inr ⟨nofun, ?_, rfl⟩
      simp only [step, Wizard.back]
      split
      · rename_i above
        exact .single (.back above)
      · exact .refl
  | finish =>
      cases finished : dialog.finish with
      | error error =>
          -- A refused finish is no end: an open dialog with all parts would have been let through.
          refine .inr ⟨?_, ?_⟩
          · rintro _ _ ⟨active, complete⟩
            have ended := (finish_iff dialog _).mpr ⟨active, _, complete, rfl⟩
            cases finished.symm.trans ended
          · simp only [step, finished]
            exact ⟨.refl, rfl⟩
      | ok after =>
          obtain ⟨active, descriptor, complete, rfl⟩ := (finish_iff _ _).mp finished
          refine .inl ⟨.finished, .closed descriptor, .finished active complete, ?_⟩
          simp only [step, finished]
          rfl
  | cancel =>
      cases active : dialog.wizard.closed with
      | true =>
          refine .inr ⟨?_, ?_⟩
          · intro status signal ends
            cases active.symm.trans (ends_active dialog .cancel status signal ends)
          · simp only [step, cancel, Wizard.cancel, active, if_true]
            exact ⟨.refl, rfl⟩
      | false =>
          refine .inl ⟨.cancelled, .dismissed cancelReason, .cancelled active, ?_⟩
          simp only [step, cancel, Wizard.cancel, active, Bool.false_eq_true, if_false]
          rfl
  | take => exact .inr ⟨nofun, .refl, rfl⟩
  | arrive => exact .inr ⟨nofun, .single (.waited _), rfl⟩
  | poll =>
      refine .inr ⟨nofun, step_poll dialog ▸ poll_turns dialog.wizard, ?_⟩
      simp only [step]
      split <;> rfl
  | resolve =>
      refine .inr ⟨nofun, step_resolve dialog ▸ resolve_turns dialog.wizard, ?_⟩
      simp only [step]
      split <;> rfl
  | apply answer => exact .inr ⟨nofun, apply_answer_turns dialog.wizard answer, rfl⟩

theorem step_aside (dialog : WizardDialog) (action : Action) (aside : action.aside = true) :
    ∃ step status pending,
      (dialog.step action).1.wizard = { dialog.wizard with step, status, pending } := by
  cases action with
  | next =>
      simp only [step, Wizard.next]
      split
      · exact ⟨_, _, _, rfl⟩
      · exact ⟨_, _, _, rfl⟩
  | back =>
      simp only [step, Wizard.back]
      split
      · exact ⟨_, _, _, rfl⟩
      · exact ⟨_, _, _, rfl⟩
  | finish =>
      cases finished : dialog.finish with
      | error error =>
          simp only [step, finished]
          exact ⟨_, _, _, rfl⟩
      | ok after =>
          obtain ⟨_, _, _, rfl⟩ := (finish_iff _ _).mp finished
          simp only [step, finished]
          exact ⟨_, _, _, rfl⟩
  | cancel =>
      simp only [step, cancel, Wizard.cancel]
      split
      · exact ⟨_, _, _, rfl⟩
      · exact ⟨_, _, _, rfl⟩
  | take => exact ⟨_, _, _, rfl⟩
  | arrive => exact ⟨_, _, _, rfl⟩
  | _ => cases aside

theorem run_append (dialog : WizardDialog) (before after : List Action) :
    dialog.run (before ++ after) = (dialog.run before).run after := by
  simp only [run, List.foldl_append]

theorem run_concat (dialog : WizardDialog) (actions : List Action) (action : Action) :
    dialog.run (actions ++ [action]) = ((dialog.run actions).step action).1 := by
  rw [run_append]
  rfl

theorem run_cut (dialog : WizardDialog) (before after : List Action) (action : Action) :
    (dialog.run (before ++ [action])).run after = dialog.run (before ++ action :: after) := by
  rw [← run_append, List.append_assoc, List.singleton_append]

def opened (scope : Scope) (topology : Topology) (pending : Option Pending) : WizardDialog :=
  { wizard := { Wizard.start scope topology with pending } }

/-- What every turn and the end of a wizard keep, every run keeps. -/
theorem run_keeps (property : Wizard → Prop)
    (turned : ∀ wizard after, Turn wizard after → property wizard → property after)
    (ended : ∀ wizard status, wizard.closed = false → property wizard →
      property (wizard.close status))
    (dialog : WizardDialog) (actions : List Action) (holds : property dialog.wizard) :
    property (dialog.run actions).wizard := by
  induction actions generalizing dialog with
  | nil => exact holds
  | cons action rest ih =>
      refine ih (dialog.step action).1 ?_
      rcases step_cases dialog action with ⟨status, signal, ends, same⟩ | ⟨_, turns, _⟩
      · rw [same]
        exact ended dialog.wizard status (ends_active _ _ _ _ ends) holds
      · exact turns_keep property turned _ _ turns holds

theorem run_closed (dialog : WizardDialog) (actions : List Action)
    (closed : dialog.wizard.closed = true) :
    (dialog.run actions).wizard.closed = true ∧
      (dialog.run actions).wizard.data = dialog.wizard.data := by
  refine run_keeps (fun wizard => wizard.closed = true ∧ wizard.data = dialog.wizard.data)
    ?_ ?_ dialog actions ⟨closed, rfl⟩
  · intro wizard after turn kept
    obtain ⟨still, same⟩ := turn_closed wizard after turn kept.1
    exact ⟨still, same.trans kept.2⟩
  · intro wizard status active kept
    cases active.symm.trans kept.1

theorem opened_step_positive (scope : Scope) (topology : Topology) (pending : Option Pending)
    (actions : List Action) : 1 ≤ ((opened scope topology pending).run actions).wizard.step := by
  apply run_keeps (fun wizard => 1 ≤ wizard.step)
  · intro wizard after turn positive
    cases turn with
    | related | next => exact Nat.le_add_right_of_le positive
    | targeted => exact Nat.le_add_right_of_le positive
    | back above => exact Nat.le_sub_one_of_lt above
    | named | waited | stored | failed => exact positive
  · intro wizard status _ positive
    exact positive
  · exact Nat.le_refl 1

end WizardDialog

end Wiring
