import Wiring.Proofs.Wizard.History
import Wiring.Proofs.Wizard.InFlight

/-!
What failed resolutions leave behind. A failure is told to the caller and noted by the
wizard until targets arrive; it takes nothing away, so targets that were on offer
before it stay on offer.
-/

namespace Wiring

namespace Wizard

def heard? (wizard : Wizard) (action : WizardDialog.Action) : Option Answer :=
  if wizard.closed then none else wizard.received? action

def noteOf : Answer → Option String
  | .resolved _ => none
  | .failed contexts => some (": ".intercalate contexts)

theorem heard_iff (wizard : Wizard) (action : WizardDialog.Action) (answer : Answer) :
    wizard.heard? action = some answer ↔
      wizard.closed = false ∧ wizard.received? action = some answer := by
  unfold heard?
  cases wizard.closed <;> simp

theorem heard_resolved_iff (wizard : Wizard) (action : WizardDialog.Action)
    (resolved : ResolvedTargets) :
    wizard.heard? action = some (.resolved resolved) ↔ wizard.applied? action = some resolved :=
  (heard_iff _ _ _).trans (applied_iff _ _ _).symm

theorem apply_answer_failed (wizard : Wizard) (contexts : List String)
    (active : wizard.closed = false) :
    wizard.applyAnswer (.failed contexts) =
      ({ wizard with resolutionError := some (": ".intercalate contexts) },
        .error (.resolutionFailed (": ".intercalate contexts))) := by
  simp only [applyAnswer, active, Bool.false_eq_true, if_false]

theorem apply_answer_closed (wizard : Wizard) (answer : Answer) (closed : wizard.closed = true) :
    wizard.applyAnswer answer = (wizard, .ok ()) := by
  simp only [applyAnswer, closed, if_true]

end Wizard

namespace WizardDialog

open Wizard

theorem step_apply_failed (dialog : WizardDialog) (contexts : List String)
    (active : dialog.wizard.closed = false) :
    dialog.step (.apply (.failed contexts)) =
      ({ dialog with
          wizard := { dialog.wizard with
            resolutionError := some (": ".intercalate contexts) } },
        .failed (.resolutionFailed (": ".intercalate contexts))) := by
  simp only [step, apply_answer_failed dialog.wizard contexts active]
  rfl

theorem step_apply_closed (dialog : WizardDialog) (answer : Answer)
    (closed : dialog.wizard.closed = true) : dialog.step (.apply answer) = (dialog, .done) := by
  simp only [step, apply_answer_closed dialog.wizard answer closed]
  rfl

/-- A failure is told and noted, and there is nothing else to it. -/
theorem step_failed (dialog : WizardDialog) (action : Action) (contexts : List String)
    (heard : dialog.wizard.heard? action = some (.failed contexts)) :
    ∃ pending, dialog.step action =
      ({ dialog with
          wizard := { dialog.wizard with
            pending, resolutionError := some (": ".intercalate contexts) } },
        .failed (.resolutionFailed (": ".intercalate contexts))) := by
  obtain ⟨active, received⟩ := (heard_iff _ _ _).mp heard
  have failed := step_apply_failed dialog contexts active
  rcases received_cases dialog.wizard action _ received with rfl | noticed
  · exact ⟨dialog.wizard.pending, failed⟩
  · refine ⟨none, ?_⟩
    rw [step_answered_ending dialog action _ noticed, failed]
    cases action <;> rfl

theorem step_unnoticed (dialog : WizardDialog) (action : Action)
    (asks : action = .poll ∨ action = .resolve)
    (unnoticed : dialog.wizard.noticed? action = none) :
    (dialog.step action).1.wizard = dialog.wizard := by
  rcases asks with rfl | rfl
  · rw [step_poll, poll_noticed, unnoticed]
    rfl
  · rw [step_resolve, resolve_noticed, unnoticed]
    rfl

/-- An answer that is not heard makes no difference to an open wizard or to a closed one. -/
theorem step_answering_unheard (dialog : WizardDialog) (action : Action)
    (answering : action.answering = true) (unheard : dialog.wizard.heard? action = none) :
    ∃ pending, (dialog.step action).1.wizard = { dialog.wizard with pending } := by
  have ignored : ∀ answer, dialog.wizard.received? action = some answer →
      dialog.step (.apply answer) = (dialog, .done) := by
    intro answer received
    cases active : dialog.wizard.closed with
    | true => exact step_apply_closed dialog answer active
    | false => cases unheard.symm.trans ((heard_iff _ _ _).mpr ⟨active, received⟩)
  have asked : action = .poll ∨ action = .resolve →
      ∃ pending, (dialog.step action).1.wizard = { dialog.wizard with pending } := by
    intro asks
    cases noticed : dialog.wizard.noticed? action with
    | none => exact ⟨_, step_unnoticed dialog action asks noticed⟩
    | some ending =>
        cases ending with
        | dropped => exact ⟨none, by rw [step_dropped_ending dialog action noticed]; rfl⟩
        | answered answer =>
            refine ⟨none, ?_⟩
            rw [step_answered_ending dialog action answer noticed,
              ignored answer (noticed_received dialog.wizard action answer noticed)]
            rfl
  cases action with
  | poll => exact asked (.inl rfl)
  | resolve => exact asked (.inr rfl)
  | apply answer => exact ⟨_, by rw [ignored answer rfl]⟩
  | _ => cases answering

theorem step_unheard (dialog : WizardDialog) (action : Action)
    (unheard : dialog.wizard.heard? action = none) :
    (dialog.step action).1.wizard.targets = dialog.wizard.targets ∧
      (dialog.step action).1.wizard.resolutionError = dialog.wizard.resolutionError := by
  rcases action.kinds with aside | choosing | answering
  · obtain ⟨_, _, _, same⟩ := step_aside dialog action aside
    rw [same]
    exact ⟨rfl, rfl⟩
  · rcases step_choosing dialog action choosing with ⟨after, chosen, same⟩ | ⟨error, same⟩
    · rw [same]
      cases chosen <;> exact ⟨rfl, rfl⟩
    · rw [same]
      exact ⟨rfl, rfl⟩
  · obtain ⟨pending, same⟩ := step_answering_unheard dialog action answering unheard
    rw [same]
    exact ⟨rfl, rfl⟩

theorem step_unapplied_targets (dialog : WizardDialog) (action : Action)
    (unapplied : dialog.wizard.applied? action = none) :
    (dialog.step action).1.wizard.targets = dialog.wizard.targets := by
  cases heard : dialog.wizard.heard? action with
  | none => exact (step_unheard dialog action heard).1
  | some answer =>
      cases answer with
      | resolved resolved =>
          cases unapplied.symm.trans ((heard_resolved_iff _ _ _).mp heard)
      | failed contexts =>
          obtain ⟨pending, same⟩ := step_failed dialog action contexts heard
          rw [same]

theorem step_heard_note (dialog : WizardDialog) (action : Action) (answer : Answer)
    (heard : dialog.wizard.heard? action = some answer) :
    (dialog.step action).1.wizard.resolutionError = noteOf answer := by
  cases answer with
  | resolved resolved =>
      exact (step_applied_offers dialog action resolved ((heard_resolved_iff _ _ _).mp heard)).2
  | failed contexts =>
      obtain ⟨pending, same⟩ := step_failed dialog action contexts heard
      rw [same]
      rfl

theorem last_answer_note (dialog : WizardDialog) (actions : List Action) (answer : Answer)
    (last : Last heard? dialog actions answer) :
    (dialog.run actions).wizard.resolutionError = noteOf answer :=
  last_sets heard? Wizard.resolutionError noteOf step_heard_note
    (fun current action unheard => (step_unheard current action unheard).2) dialog actions answer
    last

theorem last_applied_targets (dialog : WizardDialog) (actions : List Action)
    (resolved : ResolvedTargets) (last : Last applied? dialog actions resolved) :
    (dialog.run actions).wizard.targets = resolved.targets :=
  last_sets applied? Wizard.targets ResolvedTargets.targets
    (fun current action brought applied => (step_applied_offers current action brought applied).1)
    step_unapplied_targets dialog actions resolved last

theorem never_applied_targets (dialog : WizardDialog) (actions : List Action)
    (never : Never (fun wizard action => (wizard.applied? action).isSome) dialog actions) :
    (dialog.run actions).wizard.targets = dialog.wizard.targets :=
  unread_keeps applied? Wizard.targets step_unapplied_targets dialog actions never

theorem never_heard_note (dialog : WizardDialog) (actions : List Action)
    (never : Never (fun wizard action => (wizard.heard? action).isSome) dialog actions) :
    (dialog.run actions).wizard.resolutionError = dialog.wizard.resolutionError :=
  unread_keeps heard? Wizard.resolutionError
    (fun current action unheard => (step_unheard current action unheard).2) dialog actions never

theorem noted_failure_iff (dialog : WizardDialog) (actions : List Action)
    (fresh : dialog.wizard.resolutionError = none) (message : String) :
    (dialog.run actions).wizard.resolutionError = some message ↔
      ∃ contexts, Last heard? dialog actions (.failed contexts) ∧
        message = ": ".intercalate contexts := by
  constructor
  · intro noted
    rcases never_or_last_read heard? dialog actions with never | ⟨answer, last⟩
    · rw [never_heard_note dialog actions never, fresh] at noted
      cases noted
    · have told := last_answer_note dialog actions answer last
      rw [noted] at told
      cases answer with
      | resolved resolved => cases told
      | failed contexts => exact ⟨contexts, last, Option.some.inj told⟩
  · rintro ⟨contexts, last, rfl⟩
    exact last_answer_note dialog actions (.failed contexts) last

/-- What is on offer is told by the answer that was applied last. -/
theorem offers_nothing_iff (dialog : WizardDialog) (actions : List Action)
    (fresh : dialog.wizard.targets = []) :
    (dialog.run actions).wizard.targets = [] ↔
      ∀ resolved, Last applied? dialog actions resolved → resolved.targets = [] := by
  constructor
  · intro none resolved last
    exact (last_applied_targets dialog actions resolved last).symm.trans none
  · intro offered
    rcases never_or_last_read applied? dialog actions with never | ⟨resolved, last⟩
    · exact (never_applied_targets dialog actions never).trans fresh
    · exact (last_applied_targets dialog actions resolved last).trans (offered resolved last)

/-- A failure is told and noted until targets arrive. It does not take back the targets that were on
offer before it: none are offered beside its note exactly if the last answer that was applied
brought none. -/
structure FailuresNoted (dialog : WizardDialog) (actions : List Action) : Prop where
  applied : ∀ contexts, (dialog.run actions).wizard.closed = false →
    (dialog.run actions).step (.apply (.failed contexts)) =
      ({ dialog.run actions with
          wizard := { (dialog.run actions).wizard with
            resolutionError := some (": ".intercalate contexts) } },
        .failed (.resolutionFailed (": ".intercalate contexts)))
  -- However the failure comes, be it by a poll or a wait.
  failed : ∀ action contexts,
    (dialog.run actions).wizard.heard? action = some (.failed contexts) →
      ∃ pending, (dialog.run actions).step action =
        ({ dialog.run actions with
            wizard := { (dialog.run actions).wizard with
              pending, resolutionError := some (": ".intercalate contexts) } },
          .failed (.resolutionFailed (": ".intercalate contexts)))
  resolved : ∀ action resolved,
    (dialog.run actions).wizard.heard? action = some (.resolved resolved) →
      (dialog.run (actions ++ [action])).wizard.targets = resolved.targets ∧
        (dialog.run (actions ++ [action])).wizard.resolutionError = none
  noted : ∀ message, (dialog.run actions).wizard.resolutionError = some message ↔
    ∃ contexts, Last heard? dialog actions (.failed contexts) ∧
      message = ": ".intercalate contexts
  offered : ∀ resolved, Last applied? dialog actions resolved →
    (dialog.run actions).wizard.targets = resolved.targets
  emptied : (dialog.run actions).wizard.targets = [] ↔
    ∀ resolved, Last applied? dialog actions resolved → resolved.targets = []

theorem failures_noted (scope : Scope) (topology : Topology) (pending : Option Pending)
    (actions : List Action) : FailuresNoted (opened scope topology pending) actions := by
  constructor
  · intro contexts active
    exact step_apply_failed _ contexts active
  · intro action contexts heard
    exact step_failed _ action contexts heard
  · intro action resolved heard
    rw [run_concat]
    exact step_applied_offers _ action resolved ((heard_resolved_iff _ _ _).mp heard)
  · exact noted_failure_iff _ actions rfl
  · exact last_applied_targets _ actions
  · exact offers_nothing_iff _ actions rfl

def serverOffered : ResolvedTargets where
  targets := [{ template := ⟨"server"⟩, capabilities := [⟨"host", "container"⟩] }]

def outdated : List Action := [
  .apply (.resolved serverOffered), .apply (.failed ["catalog unavailable", "timed out"])]

/-- The server is still on offer beside the note of the failure. -/
theorem failure_keeps_offers :
    FailuresNoted (opened default default none) outdated ∧
      ((opened default default none).run outdated).wizard.resolutionError =
        some "catalog unavailable: timed out" ∧
      ((opened default default none).run outdated).wizard.targets = serverOffered.targets :=
  ⟨failures_noted default default none outdated, by decide, rfl⟩

end WizardDialog

end Wiring
