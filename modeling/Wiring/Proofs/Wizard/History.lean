import Mathlib.Data.List.Induction
import Wiring.Proofs.Wizard.Turns

/-!
Kinds of operations in a run. Either no operation of a run is of a kind, or the run
can be cut at the last one that is.
-/

namespace Wiring

namespace WizardDialog

def Never (event : Wizard → Action → Bool) : WizardDialog → List Action → Prop
  | _, [] => True
  | dialog, action :: rest =>
      event dialog.wizard action = false ∧ Never event (dialog.step action).1 rest

/-- What every operation of other kinds keeps, a run without this kind keeps. -/
theorem never_keeps {β : Type} (event : Wizard → Action → Bool) (view : Wizard → β)
    (kept : ∀ (dialog : WizardDialog) (action : Action), event dialog.wizard action = false →
      view (dialog.step action).1.wizard = view dialog.wizard)
    (dialog : WizardDialog) (actions : List Action) (never : Never event dialog actions) :
    view (dialog.run actions).wizard = view dialog.wizard := by
  induction actions generalizing dialog with
  | nil => rfl
  | cons action rest ih =>
      have first := kept dialog action never.1
      exact (ih (dialog.step action).1 never.2).trans first

theorem never_concat_iff (event : Wizard → Action → Bool) (dialog : WizardDialog)
    (actions : List Action) (action : Action) :
    Never event dialog (actions ++ [action]) ↔
      Never event dialog actions ∧ event (dialog.run actions).wizard action = false := by
  induction actions generalizing dialog with
  | nil => simp [Never, run]
  | cons first rest ih =>
      simp only [List.cons_append, Never, ih, and_assoc]
      rfl

theorem never_or_last (event : Wizard → Action → Bool) (dialog : WizardDialog)
    (actions : List Action) :
    Never event dialog actions ∨
      ∃ before action after, actions = before ++ action :: after ∧
        event (dialog.run before).wizard action = true ∧
        Never event (dialog.run (before ++ [action])) after := by
  induction actions using List.reverseRecOn with
  | nil => exact .inl trivial
  | append_singleton actions action ih =>
      cases happens : event (dialog.run actions).wizard action with
      | true => exact .inr ⟨actions, action, [], rfl, happens, trivial⟩
      | false =>
          rcases ih with never | ⟨before, last, after, rfl, happened, never⟩
          · exact .inl ((never_concat_iff _ _ _ _).mpr ⟨never, happens⟩)
          · refine .inr ⟨before, last, after ++ [action], by simp, happened, ?_⟩
            refine (never_concat_iff _ _ _ _).mpr ⟨never, ?_⟩
            rwa [run_cut]

/-- The last operation of a run that something is read off, and what that is. -/
def Last {α : Type} (read? : Wizard → Action → Option α) (dialog : WizardDialog)
    (actions : List Action) (value : α) : Prop :=
  ∃ before action after, actions = before ++ action :: after ∧
    read? (dialog.run before).wizard action = some value ∧
    Never (fun wizard action => (read? wizard action).isSome) (dialog.run (before ++ [action])) after

theorem never_or_last_read {α : Type} (read? : Wizard → Action → Option α) (dialog : WizardDialog)
    (actions : List Action) :
    Never (fun wizard action => (read? wizard action).isSome) dialog actions ∨
      ∃ value, Last read? dialog actions value := by
  rcases never_or_last (fun wizard action => (read? wizard action).isSome) dialog actions with
    never | ⟨before, action, after, cut, happens, never⟩
  · exact .inl never
  · obtain ⟨value, reads⟩ := Option.isSome_iff_exists.mp happens
    exact .inr ⟨value, before, action, after, cut, reads, never⟩

theorem unread_keeps {α β : Type} (read? : Wizard → Action → Option α) (view : Wizard → β)
    (kept : ∀ (dialog : WizardDialog) (action : Action), read? dialog.wizard action = none →
      view (dialog.step action).1.wizard = view dialog.wizard)
    (dialog : WizardDialog) (actions : List Action)
    (never : Never (fun wizard action => (read? wizard action).isSome) dialog actions) :
    view (dialog.run actions).wizard = view dialog.wizard := by
  apply never_keeps _ view _ dialog actions never
  intro current action silent
  exact kept current action (Option.isNone_iff_eq_none.mp (Option.isSome_eq_false_iff.mp silent))

/-- What is set by each operation that something is read off, and kept by all others, is told by the
last reading. -/
theorem last_sets {α β : Type} (read? : Wizard → Action → Option α) (view : Wizard → β)
    (told : α → β)
    (set : ∀ (dialog : WizardDialog) (action : Action) (value : α),
      read? dialog.wizard action = some value →
        view (dialog.step action).1.wizard = told value)
    (kept : ∀ (dialog : WizardDialog) (action : Action), read? dialog.wizard action = none →
      view (dialog.step action).1.wizard = view dialog.wizard)
    (dialog : WizardDialog) (actions : List Action) (value : α)
    (last : Last read? dialog actions value) : view (dialog.run actions).wizard = told value := by
  obtain ⟨before, action, after, rfl, reads, never⟩ := last
  have still := unread_keeps read? view kept _ after never
  rw [run_cut, run_concat] at still
  exact still.trans (set (dialog.run before) action value reads)

end WizardDialog

end Wiring
