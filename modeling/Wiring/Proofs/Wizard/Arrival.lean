import Wiring.Proofs.Wizard.Turns

/-!
Answers that reach a wizard. A poll, a wait and an application all end in the same
change, so what an answer does can be told without saying how it came.
-/

namespace Wiring

namespace Wizard

theorem closed_pending (wizard : Wizard) (pending : Option Pending) :
    ({ wizard with pending } : Wizard).closed = wizard.closed :=
  rfl

theorem select_target_pending (wizard : Wizard) (pending : Option Pending) (target : String)
    (capability : Option String) :
    ({ wizard with pending } : Wizard).selectTarget target capability =
      (wizard.selectTarget target capability).map ({ · with pending }) := by
  have filters : ({ wizard with pending } : Wizard).filtersFor target capability =
      wizard.filtersFor target capability := by
    cases capability <;> rfl
  unfold selectTarget
  rw [filters, closed_pending]
  cases wizard.closed with
  | true => rfl
  | false =>
      cases wizard.filtersFor target capability with
      | error error => rfl
      | ok filters =>
          cases type : wizard.data.relationship <;>
            simp [bind, Except.bind, pure, Except.pure, Except.map, type, advance, refreshName]

theorem preselect_pending (wizard : Wizard) (pending : Option Pending)
    (preferred : Option TargetMatch) :
    ({ wizard with pending } : Wizard).preselect preferred =
      { wizard.preselect preferred with pending } := by
  unfold preselect
  split
  · rename_i template capability
    rw [select_target_pending]
    cases wizard.selectTarget template.name (some capability.id) <;> rfl
  · rfl

/-- What is under way does not bear on what an answer does. -/
theorem apply_resolved_pending (wizard : Wizard) (pending : Option Pending)
    (resolved : ResolvedTargets) :
    ({ wizard with pending } : Wizard).applyResolved resolved =
      { wizard.applyResolved resolved with pending } :=
  preselect_pending (wizard.store resolved) pending resolved.preferredMatch

def noticed? (wizard : Wizard) : WizardDialog.Action → Option Ending
  | .poll => wizard.pending.bind fun pending => if pending.arrived then pending.ending else none
  | .resolve => wizard.pending.bind Pending.ending
  | _ => none

def received? (wizard : Wizard) : WizardDialog.Action → Option Answer
  | .apply answer => some answer
  | action =>
      match wizard.noticed? action with
      | some (.answered answer) => some answer
      | _ => none

/-- The targets that an operation brings to the wizard while it is open. -/
def applied? (wizard : Wizard) (action : WizardDialog.Action) : Option ResolvedTargets :=
  if wizard.closed then none
  else
    match wizard.received? action with
    | some (.resolved resolved) => some resolved
    | _ => none

theorem received_poll_iff (wizard : Wizard) (answer : Answer) :
    wizard.received? .poll = some answer ↔ wizard.noticed? .poll = some (.answered answer) := by
  simp only [received?]
  rcases wizard.noticed? .poll with _ | _ | _ <;> simp

theorem received_resolve_iff (wizard : Wizard) (answer : Answer) :
    wizard.received? .resolve = some answer ↔
      wizard.noticed? .resolve = some (.answered answer) := by
  simp only [received?]
  rcases wizard.noticed? .resolve with _ | _ | _ <;> simp

theorem received_cases (wizard : Wizard) (action : WizardDialog.Action) (answer : Answer)
    (received : wizard.received? action = some answer) :
    action = .apply answer ∨ wizard.noticed? action = some (.answered answer) := by
  cases action with
  | apply other =>
      cases received
      exact .inl rfl
  | poll => exact .inr ((received_poll_iff wizard answer).mp received)
  | resolve => exact .inr ((received_resolve_iff wizard answer).mp received)
  | _ => cases received

theorem noticed_received (wizard : Wizard) (action : WizardDialog.Action) (answer : Answer)
    (noticed : wizard.noticed? action = some (.answered answer)) :
    wizard.received? action = some answer := by
  cases action with
  | poll => exact (received_poll_iff wizard answer).mpr noticed
  | resolve => exact (received_resolve_iff wizard answer).mpr noticed
  | _ => cases noticed

theorem applied_iff (wizard : Wizard) (action : WizardDialog.Action) (resolved : ResolvedTargets) :
    wizard.applied? action = some resolved ↔
      wizard.closed = false ∧ wizard.received? action = some (.resolved resolved) := by
  unfold applied?
  cases wizard.closed with
  | true => simp
  | false => rcases wizard.received? action with _ | _ | _ <;> simp

theorem unapplied_closed (wizard : Wizard) (action : WizardDialog.Action)
    (resolved : ResolvedTargets) (unapplied : wizard.applied? action = none)
    (received : wizard.received? action = some (.resolved resolved)) : wizard.closed = true := by
  cases active : wizard.closed with
  | true => rfl
  | false =>
      have applied := (applied_iff wizard action resolved).mpr ⟨active, received⟩
      cases unapplied.symm.trans applied

theorem poll_result (wizard : Wizard) :
    wizard.poll = (wizard.noticed? .poll).elim (wizard, .ok false) fun ending =>
      ((wizard.applyEnding ending).1, (wizard.applyEnding ending).2.map fun _ => true) := by
  unfold poll noticed?
  rcases wizard.pending with _ | ⟨_ | ending, _ | _⟩ <;> rfl

theorem resolve_result (wizard : Wizard) :
    wizard.resolve =
      (wizard.noticed? .resolve).elim
        (wizard, if wizard.resolving then none else some (.ok ())) fun ending =>
        ((wizard.applyEnding ending).1, some (wizard.applyEnding ending).2) := by
  unfold resolve noticed? resolving
  rcases wizard.pending with _ | ⟨_ | ending, arrived⟩ <;> rfl

theorem poll_noticed (wizard : Wizard) :
    wizard.poll.1 = (wizard.noticed? .poll).elim wizard fun ending =>
      (wizard.applyEnding ending).1 := by
  rw [poll_result]
  cases wizard.noticed? .poll <;> rfl

theorem resolve_noticed (wizard : Wizard) :
    wizard.resolve.1 = (wizard.noticed? .resolve).elim wizard fun ending =>
      (wizard.applyEnding ending).1 := by
  rw [resolve_result]
  cases wizard.noticed? .resolve <;> rfl

theorem apply_resolved_offers (wizard : Wizard) (resolved : ResolvedTargets) :
    (wizard.applyResolved resolved).targets = resolved.targets ∧
      (wizard.applyResolved resolved).resolutionError = none := by
  rcases apply_resolved_cases wizard resolved with ⟨_, same⟩ | ⟨_, _, _, _, _, _, _, same⟩
  · rw [same]
    exact ⟨rfl, rfl⟩
  · rw [same]
    exact ⟨rfl, rfl⟩

theorem apply_answer_resolved (wizard : Wizard) (resolved : ResolvedTargets)
    (active : wizard.closed = false) :
    wizard.applyAnswer (.resolved resolved) = (wizard.applyResolved resolved, .ok ()) := by
  simp [applyAnswer, active]

theorem apply_answer_unapplied (wizard : Wizard) (answer : Answer)
    (unapplied : ∀ resolved, answer = .resolved resolved → wizard.closed = true) :
    ∃ resolutionError, (wizard.applyAnswer answer).1 = { wizard with resolutionError } := by
  unfold applyAnswer
  cases active : wizard.closed with
  | true => exact ⟨_, rfl⟩
  | false =>
      cases answer with
      | resolved resolved => cases active.symm.trans (unapplied resolved rfl)
      | failed contexts => exact ⟨_, rfl⟩

theorem apply_ending_resolved (wizard : Wizard) (resolved : ResolvedTargets)
    (active : wizard.closed = false) :
    (wizard.applyEnding (.answered (.resolved resolved))).1 =
      { wizard.applyResolved resolved with pending := none } := by
  have still : ({ wizard with pending := none } : Wizard).closed = false := active
  rw [applyEnding, apply_answer_resolved _ resolved still, apply_resolved_pending]

theorem apply_ending_unapplied (wizard : Wizard) (ending : Ending)
    (unapplied : ∀ resolved, ending = .answered (.resolved resolved) → wizard.closed = true) :
    ∃ pending resolutionError,
      (wizard.applyEnding ending).1 = { wizard with pending, resolutionError } := by
  cases ending with
  | answered answer =>
      obtain ⟨error, same⟩ := apply_answer_unapplied { wizard with pending := none } answer
        fun resolved same => unapplied resolved (congrArg Ending.answered same)
      exact ⟨none, error, same⟩
  | dropped => exact ⟨none, wizard.resolutionError, rfl⟩

end Wizard

namespace WizardDialog

open Wizard

/-- An operation that applies targets does nothing else, but for ending what is under way. -/
theorem step_applied (dialog : WizardDialog) (action : Action) (resolved : ResolvedTargets)
    (applied : dialog.wizard.applied? action = some resolved) :
    ∃ pending, (dialog.step action).1.wizard =
      { dialog.wizard.applyResolved resolved with pending } := by
  obtain ⟨active, received⟩ := (applied_iff _ _ _).mp applied
  cases action with
  | poll =>
      have noticed := (received_poll_iff _ _).mp received
      refine ⟨none, ?_⟩
      rw [step_poll, poll_noticed, noticed]
      exact apply_ending_resolved dialog.wizard resolved active
  | resolve =>
      have noticed := (received_resolve_iff _ _).mp received
      refine ⟨none, ?_⟩
      rw [step_resolve, resolve_noticed, noticed]
      exact apply_ending_resolved dialog.wizard resolved active
  | apply answer =>
      cases received
      exact ⟨_, congrArg Prod.fst (apply_answer_resolved dialog.wizard resolved active)⟩
  | _ => cases received

theorem step_applied_offers (dialog : WizardDialog) (action : Action) (resolved : ResolvedTargets)
    (applied : dialog.wizard.applied? action = some resolved) :
    (dialog.step action).1.wizard.targets = resolved.targets ∧
      (dialog.step action).1.wizard.resolutionError = none := by
  obtain ⟨pending, same⟩ := step_applied dialog action resolved applied
  rw [same]
  exact apply_resolved_offers dialog.wizard resolved

/-- An operation that brings no targets can only end what is under way and note an error. -/
theorem step_unapplied (dialog : WizardDialog) (action : Action)
    (answering : action.answering = true) (unapplied : dialog.wizard.applied? action = none) :
    ∃ pending resolutionError,
      (dialog.step action).1.wizard = { dialog.wizard with pending, resolutionError } := by
  cases action with
  | poll =>
      rw [step_poll, poll_noticed]
      cases noticed : dialog.wizard.noticed? .poll with
      | none => exact ⟨_, _, rfl⟩
      | some ending =>
          refine apply_ending_unapplied _ ending fun resolved same => ?_
          refine unapplied_closed _ _ resolved unapplied ((received_poll_iff _ _).mpr ?_)
          exact noticed.trans (congrArg some same)
  | resolve =>
      rw [step_resolve, resolve_noticed]
      cases noticed : dialog.wizard.noticed? .resolve with
      | none => exact ⟨_, _, rfl⟩
      | some ending =>
          refine apply_ending_unapplied _ ending fun resolved same => ?_
          refine unapplied_closed _ _ resolved unapplied ((received_resolve_iff _ _).mpr ?_)
          exact noticed.trans (congrArg some same)
  | apply answer =>
      obtain ⟨error, same⟩ := apply_answer_unapplied dialog.wizard answer fun resolved same =>
        unapplied_closed _ _ resolved unapplied (congrArg some same)
      exact ⟨dialog.wizard.pending, error, same⟩
  | _ => cases answering

end WizardDialog

end Wiring
