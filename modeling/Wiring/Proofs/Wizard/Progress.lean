import Wiring.Proofs.Wizard.Arrival
import Wiring.Proofs.Wizard.Commuting

/-!
How a wizard gets on. The count of its steps starts at one and has no upper end: every
selection adds to it, and only a move back takes anything away. The phase follows the
count up to the confirmation, and the end of the wizard fixes it.
-/

namespace Wiring

def WizardPhase.rank : WizardPhase → Nat
  | .chooseRelationship => 0
  | .chooseTarget => 1
  | .confirm => 2
  | .finished | .cancelled => 3

namespace Wizard

theorem rank_le_last (phase : WizardPhase) : phase.rank ≤ 3 := by
  cases phase <;> decide

theorem final_rank (wizard : Wizard) (closed : wizard.closed = true) : wizard.phase.rank = 3 := by
  unfold phase
  cases status : wizard.status with
  | active => simp [Wizard.closed, status] at closed
  | finished | cancelled => rfl

/-- The phase of a closed wizard is the way in which it was closed. -/
theorem final_phase (wizard after : Wizard) (closed : wizard.closed = true)
    (same : after.status = wizard.status) : after.phase = wizard.phase := by
  unfold phase
  rw [same]
  cases status : wizard.status with
  | active => simp [Wizard.closed, status] at closed
  | finished | cancelled => rfl

theorem active_rank (wizard : Wizard) (active : wizard.status = .active) :
    wizard.phase.rank = min (wizard.step - 1) 2 := by
  unfold phase
  rw [active]
  match wizard.step with
  | 0 | 1 | 2 => rfl
  | steps + 3 =>
      have late : 2 ≤ steps + 3 - 1 := by omega
      exact (Nat.min_eq_right late).symm

theorem rank_monotone (wizard after : Wizard) (same : after.status = wizard.status)
    (further : wizard.step ≤ after.step) : wizard.phase.rank ≤ after.phase.rank := by
  cases status : wizard.status with
  | active =>
      rw [active_rank wizard status, active_rank after (same.trans status)]
      omega
  | finished | cancelled =>
      have closed : wizard.closed = true := by rw [closed, status]; rfl
      exact Nat.le_of_eq (congrArg WizardPhase.rank (final_phase wizard after closed same).symm)

theorem turns_status (wizard after : Wizard) (turns : Turns wizard after) :
    after.status = wizard.status :=
  turns_keep (fun current => current.status = wizard.status)
    (fun _ _ turn same => (turn_status _ _ turn).trans same) wizard after turns rfl

theorem targeted_raises (wizard : Wizard) (target : String) (capability : Option String)
    (filters : List HiddenFilter) :
    ∃ steps ≤ 2, (wizard.targeted target capability filters).step = wizard.step + steps := by
  refine ⟨if wizard.data.relationship.isSome then 2 else 1, ?_, rfl⟩
  split <;> omega

/-- A wizard that knows the type is past the last choice with the target. -/
theorem targeted_confirms (wizard : Wizard) (target : String) (capability : Option String)
    (filters : List HiddenFilter) (active : wizard.closed = false) (positive : 1 ≤ wizard.step)
    (known : wizard.data.relationship.isSome = true) :
    (wizard.targeted target capability filters).phase = .confirm := by
  refine late_confirms _ active ?_
  rw [targeted, known, if_pos rfl]
  exact Nat.add_le_add_right positive 2

theorem apply_resolved_raises (wizard : Wizard) (resolved : ResolvedTargets) :
    ∃ steps ≤ 2, (wizard.applyResolved resolved).step = wizard.step + steps := by
  rcases apply_resolved_cases wizard resolved with ⟨_, same⟩ | ⟨_, _, _, _, _, _, _, same⟩
  · exact ⟨0, Nat.zero_le 2, by rw [same]; rfl⟩
  · rw [same]
    exact targeted_raises (wizard.store resolved) _ _ _

end Wizard

namespace WizardDialog

open Wizard

theorem chosen_raises (wizard after : Wizard) (action : Action)
    (chosen : Chosen wizard action after) : ∃ steps ≤ 2, after.step = wizard.step + steps := by
  cases chosen with
  | related => exact ⟨1, by decide, rfl⟩
  | targeted target capability filters => exact targeted_raises wizard target capability filters
  | named => exact ⟨0, by decide, rfl⟩

theorem aside_raises (dialog : WizardDialog) (action : Action) (aside : action.aside = true)
    (forward : action ≠ .back) :
    ∃ steps ≤ 1, (dialog.step action).1.wizard.step = dialog.wizard.step + steps := by
  cases action with
  | next =>
      simp only [step, Wizard.next]
      split
      · exact ⟨1, Nat.le_refl 1, rfl⟩
      · exact ⟨0, Nat.zero_le 1, rfl⟩
  | back => exact absurd rfl forward
  | finish =>
      cases finished : dialog.finish with
      | error error =>
          simp only [step, finished]
          exact ⟨0, Nat.zero_le 1, rfl⟩
      | ok after =>
          obtain ⟨_, _, _, rfl⟩ := (finish_iff _ _).mp finished
          simp only [step, finished]
          exact ⟨0, Nat.zero_le 1, rfl⟩
  | cancel =>
      simp only [step, cancel, Wizard.cancel]
      split
      · exact ⟨0, Nat.zero_le 1, rfl⟩
      · exact ⟨0, Nat.zero_le 1, rfl⟩
  | take | arrive => exact ⟨0, Nat.zero_le 1, rfl⟩
  | _ => cases aside

/-- Whatever is done but to move back, the step stays or goes up by one or two. -/
theorem step_raises (dialog : WizardDialog) (action : Action) (forward : action ≠ .back) :
    ∃ steps ≤ 2, (dialog.step action).1.wizard.step = dialog.wizard.step + steps := by
  rcases action.kinds with aside | choosing | answering
  · obtain ⟨steps, few, raised⟩ := aside_raises dialog action aside forward
    exact ⟨steps, Nat.le_succ_of_le few, raised⟩
  · rcases step_choosing dialog action choosing with ⟨after, chosen, same⟩ | ⟨error, same⟩
    · rw [same]
      exact chosen_raises _ after action chosen
    · rw [same]
      exact ⟨0, Nat.zero_le 2, rfl⟩
  · cases applied : dialog.wizard.applied? action with
    | none =>
        obtain ⟨_, _, same⟩ := step_unapplied dialog action answering applied
        rw [same]
        exact ⟨0, Nat.zero_le 2, rfl⟩
    | some resolved =>
        obtain ⟨_, same⟩ := step_applied dialog action resolved applied
        rw [same]
        exact apply_resolved_raises dialog.wizard resolved

theorem step_rank (dialog : WizardDialog) (action : Action) (forward : action ≠ .back) :
    dialog.wizard.phase.rank ≤ (dialog.step action).1.wizard.phase.rank := by
  rcases step_cases dialog action with ⟨status, signal, ends, same⟩ | ⟨_, turns, _⟩
  · rw [same, final_rank _ (ends_final dialog action status signal ends)]
    exact rank_le_last _
  · obtain ⟨steps, _, raised⟩ := step_raises dialog action forward
    exact rank_monotone _ _ (turns_status _ _ turns) (raised ▸ Nat.le_add_right _ steps)

theorem run_final (dialog : WizardDialog) (actions : List Action)
    (closed : dialog.wizard.closed = true) :
    (dialog.run actions).wizard.phase = dialog.wizard.phase := by
  refine final_phase dialog.wizard _ closed ?_
  refine run_keeps (fun wizard => wizard.status = dialog.wizard.status) ?_ ?_ dialog actions rfl
  · intro wizard after turn same
    exact (turn_status wizard after turn).trans same
  · intro wizard status active same
    rw [Wizard.closed, same] at active
    cases active.symm.trans closed

structure Progresses (dialog : WizardDialog) : Prop where
  positive : 1 ≤ dialog.wizard.step
  next : dialog.wizard.step < totalSteps → dialog.step .next =
    ({ dialog with wizard := { dialog.wizard with step := dialog.wizard.step + 1 } }, .done)
  nextStays : totalSteps ≤ dialog.wizard.step → dialog.step .next = (dialog, .done)
  back : 1 < dialog.wizard.step → dialog.step .back =
    ({ dialog with wizard := { dialog.wizard with step := dialog.wizard.step - 1 } }, .done)
  backStays : dialog.wizard.step = 1 → dialog.step .back = (dialog, .done)
  lowers : ∀ action, (dialog.step action).1.wizard.step < dialog.wizard.step →
    action = .back ∧ (dialog.step action).1.wizard.step + 1 = dialog.wizard.step
  retreats : ∀ action,
    (dialog.step action).1.wizard.phase.rank < dialog.wizard.phase.rank → action = .back
  raises : ∀ action, action ≠ .next → action ≠ .back →
    dialog.wizard.step ≤ (dialog.step action).1.wizard.step ∧
      (dialog.step action).1.wizard.step ≤ dialog.wizard.step + 2
  confirms : ∀ target capability, (dialog.step (.selectTarget target capability)).2 = .done →
    dialog.wizard.data.relationship.isSome = true →
      (dialog.step (.selectTarget target capability)).1.wizard.phase = .confirm
  /-- A target that an answer preselects is selected after its type has been stored. -/
  preselects : ∀ action resolved, dialog.wizard.applied? action = some resolved →
    dialog.wizard.preselects resolved = true →
      (resolved.relationshipType.or dialog.wizard.data.relationship).isSome = true →
        (dialog.step action).1.wizard.phase = .confirm
  final : dialog.wizard.closed = true → ∀ later,
    (dialog.run later).wizard.phase = dialog.wizard.phase

theorem step_next (dialog : WizardDialog) (below : dialog.wizard.step < totalSteps) :
    dialog.step .next =
      ({ dialog with wizard := { dialog.wizard with step := dialog.wizard.step + 1 } }, .done) := by
  rw [step, Wizard.next, if_pos below, advance]

theorem step_back (dialog : WizardDialog) (above : 1 < dialog.wizard.step) :
    dialog.step .back =
      ({ dialog with wizard := { dialog.wizard with step := dialog.wizard.step - 1 } }, .done) := by
  rw [step, Wizard.back, if_pos above]

theorem step_lowers (dialog : WizardDialog) (action : Action)
    (lower : (dialog.step action).1.wizard.step < dialog.wizard.step) :
    action = .back ∧ (dialog.step action).1.wizard.step + 1 = dialog.wizard.step := by
  by_cases backward : action = .back
  · subst backward
    refine ⟨rfl, ?_⟩
    by_cases above : 1 < dialog.wizard.step
    · rw [step_back dialog above]
      exact Nat.sub_add_cancel (Nat.le_of_lt above)
    · rw [step, Wizard.back, if_neg above] at lower
      exact absurd lower (Nat.lt_irrefl _)
  · obtain ⟨steps, _, raised⟩ := step_raises dialog action backward
    omega

theorem step_confirms (dialog : WizardDialog) (target : String) (capability : Option String)
    (positive : 1 ≤ dialog.wizard.step) (known : dialog.wizard.data.relationship.isSome = true)
    (done : (dialog.step (.selectTarget target capability)).2 = .done) :
    (dialog.step (.selectTarget target capability)).1.wizard.phase = .confirm := by
  rcases step_choosing dialog (.selectTarget target capability) rfl with
    ⟨after, chosen, same⟩ | ⟨error, same⟩
  · rw [same]
    cases chosen with
    | targeted _ _ filters active =>
        exact targeted_confirms dialog.wizard target capability filters active positive known
  · rw [same] at done
    cases done

theorem step_preselects (dialog : WizardDialog) (action : Action) (resolved : ResolvedTargets)
    (positive : 1 ≤ dialog.wizard.step) (applied : dialog.wizard.applied? action = some resolved)
    (preselects : dialog.wizard.preselects resolved = true)
    (known : (dialog.wizard.store resolved).data.relationship.isSome = true) :
    (dialog.step action).1.wizard.phase = .confirm := by
  obtain ⟨pending, after⟩ := step_applied dialog action resolved applied
  rcases apply_resolved_cases dialog.wizard resolved with
    ⟨passed, _⟩ | ⟨_, target, capability, filters, _, active, _, same⟩
  · cases passed.symm.trans preselects
  · rw [after, same]
    exact targeted_confirms (dialog.wizard.store resolved) target (some capability.id) filters active
      positive known

/-- The step and the phase of a wizard after any run, and what the next operation does to them. -/
theorem steps_progress (scope : Scope) (topology : Topology) (pending : Option Pending)
    (actions : List Action) : Progresses ((opened scope topology pending).run actions) := by
  have positive := opened_step_positive scope topology pending actions
  generalize (opened scope topology pending).run actions = dialog at positive ⊢
  refine ⟨positive, step_next dialog, ?_, step_back dialog, ?_, step_lowers dialog, ?_, ?_,
    fun target capability done known => step_confirms dialog target capability positive known done,
    fun action resolved applied preselects known =>
      step_preselects dialog action resolved positive applied preselects known,
    fun closed later => run_final dialog later closed⟩
  · intro enough
    rw [step, Wizard.next, if_neg (Nat.not_lt.mpr enough)]
  · intro first
    rw [step, Wizard.back, if_neg (Nat.not_lt.mpr (Nat.le_of_eq first))]
  · intro action lower
    exact Decidable.byContradiction fun forward =>
      Nat.not_lt.mpr (step_rank dialog action forward) lower
  · intro action _ forward
    obtain ⟨steps, few, raised⟩ := step_raises dialog action forward
    omega

def overshot : List Action := [
  .apply (.resolved { relationshipType := some { elementId := "a.b.HostedOn" } }),
  .selectTarget "server" none, .selectTarget "server" (some "slot"), .selectTarget "server" none]

theorem overshot_progresses :
    ((opened need hosted none).run overshot).wizard.step = 7 ∧
      ((opened need hosted none).run overshot).step .next =
        ((opened need hosted none).run overshot, .done) ∧
      (((opened need hosted none).run overshot).step
        (.selectTarget "server" none)).1.wizard.phase = .confirm ∧
      ∀ later, (((opened need hosted none).run (overshot ++ [.cancel])).run later).wizard.phase =
        .cancelled := by
  have progresses := steps_progress need hosted none overshot
  have cancelled := steps_progress need hosted none (overshot ++ [.cancel])
  refine ⟨by decide, progresses.nextStays (by decide),
    progresses.confirms "server" none (by decide) (by decide), fun later => ?_⟩
  exact (cancelled.final (by decide) later).trans (by decide)

end WizardDialog

end Wiring
