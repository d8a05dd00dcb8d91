import Wiring.Proofs.Signals
import Wiring.Proofs.Wizard.Turns

/-!
The signal of a dialog. Until a wizard ends, its modal hears nothing; the operation
that ends it gives one signal, and no later one gives another.
-/

namespace Wiring

namespace Wizard

def signals (wizard : Wizard) : WizardDialog.Action → List (Outcome RelationshipDescriptor)
  | .finish =>
      match wizard.finish ([] : List (Outcome RelationshipDescriptor)) with
      | .ok (_, heard) => heard
      | .error _ => []
  | .cancel => (wizard.cancel ([] : List (Outcome RelationshipDescriptor))).2
  | _ => []

def NameSettled (data : RelationshipChoice) : Prop :=
  data.name.isSome = true → data.relationship.isSome = true ∧ data.target.isSome = true

theorem turn_settled (wizard after : Wizard) (turn : Turn wizard after)
    (settled : NameSettled wizard.data) : NameSettled after.data := by
  intro present
  cases turn with
  | related type active =>
      have target : wizard.data.target.isSome = true := by
        simpa only [related, Option.isSome_map] using present
      exact ⟨rfl, target⟩
  | targeted target capability filters active known =>
      refine ⟨?_, rfl⟩
      cases type : wizard.data.relationship with
      | some type => simp only [targeted, type, Option.isSome_some]
      | none =>
          -- Without a type the name stays as it was, and a name without a type was unsettled.
          have kept : wizard.data.name.isSome = true := by
            simpa only [targeted, type, Option.map_none, Option.none_or] using present
          exact absurd (settled kept).1 (by simp [type])
  | named name active =>
      by_cases known : name ≠ "" ∧ wizard.data.relationship.isSome ∧ wizard.data.target.isSome
      · exact known.2
      · simp only [named, if_neg known] at present
        cases present
  | stored resolved active =>
      obtain ⟨type, target⟩ := settled present
      refine ⟨?_, target⟩
      simp only [store, Option.isSome_or, type, Bool.or_true]
  | _ => exact settled present

end Wizard

namespace WizardDialog

open Wizard

theorem ends_signals (dialog : WizardDialog) (action : Action) (status : WizardStatus)
    (signal : Outcome RelationshipDescriptor) (ends : dialog.Ends action status signal) :
    dialog.wizard.signals action = [signal] := by
  cases ends with
  | finished active complete => simp [signals, Wizard.finish, active, complete, Modal.close]
  | cancelled active => simp [signals, Wizard.cancel, active, Modal.dismiss]

theorem no_signals (dialog : WizardDialog) (action : Action)
    (unended : ∀ status signal, ¬ dialog.Ends action status signal) :
    dialog.wizard.signals action = [] := by
  cases action with
  | finish =>
      cases active : dialog.wizard.closed with
      | true => simp [signals, Wizard.finish, active]
      | false =>
          cases complete : dialog.wizard.descriptor? with
          | none => simp [signals, Wizard.finish, active, complete]
          | some descriptor => exact absurd (.finished active complete) (unended _ _)
  | cancel =>
      cases active : dialog.wizard.closed with
      | true => simp [signals, Wizard.cancel, active]
      | false => exact absurd (.cancelled active) (unended _ _)
  | _ => rfl

def Action.refusable : Action → Bool
  | .selectRelationship _ | .selectTarget _ _ | .setName _ | .finish => true
  | _ => false

def sent (dialog : WizardDialog) (actions : List Action) : List (Outcome RelationshipDescriptor) :=
  gathered (fun current action => (current.step action).1)
    (fun current action => current.wizard.signals action) dialog actions

def takes (dialog : WizardDialog) : Action → List (Outcome RelationshipDescriptor)
  | .take => dialog.modal.take.1.toList
  | _ => []

def taken (dialog : WizardDialog) (actions : List Action) : List (Outcome RelationshipDescriptor) :=
  gathered (fun current action => (current.step action).1) takes dialog actions

theorem sent_append (dialog : WizardDialog) (before after : List Action) :
    dialog.sent (before ++ after) = dialog.sent before ++ (dialog.run before).sent after :=
  gathered_append _ _ dialog before after

theorem sent_concat (dialog : WizardDialog) (actions : List Action) (action : Action) :
    dialog.sent (actions ++ [action]) =
      dialog.sent actions ++ (dialog.run actions).wizard.signals action :=
  gathered_concat _ _ dialog actions action

theorem step_announces (dialog : WizardDialog) (action : Action) :
    Announces (fun current action => (current.step action).1)
      (fun current => current.wizard.closed) WizardDialog.modal
      (fun current action => current.wizard.signals action) takes dialog action := by
  rcases step_cases dialog action with ⟨status, signal, ends, same⟩ | ⟨unended, turns, modal⟩
  · refine .ends (ends_active _ _ _ _ ends) ?_ (ends_signals _ _ _ _ ends) ?_ ?_
    · rw [same]
      exact ends_final _ _ _ _ ends
    · cases ends <;> rfl
    · rw [same]
  · refine .passes (turns_closed _ _ turns) (no_signals dialog action unended) ?_
    rw [modal]
    cases action with
    | take => exact List.append_nil _
    | _ => rfl

structure EndsAt (dialog : WizardDialog) (before : List Action) (action : Action)
    (after : List Action) (status : WizardStatus) (signal : Outcome RelationshipDescriptor) :
    Prop where
  ends : (dialog.run before).Ends action status signal
  closed : (dialog.run (before ++ [action])).wizard = (dialog.run before).wizard.close status
  silent : dialog.sent before = []
  signals : (dialog.run before).wizard.signals action = [signal]
  settled : (dialog.run (before ++ [action])).sent after = []

theorem ends_at_sent (dialog : WizardDialog) (before : List Action) (action : Action)
    (after : List Action) (status : WizardStatus) (signal : Outcome RelationshipDescriptor)
    (ended : dialog.EndsAt before action after status signal) :
    dialog.sent (before ++ action :: after) = [signal] := by
  rw [← List.singleton_append, ← List.append_assoc, sent_append, sent_concat, ended.silent,
    ended.signals, ended.settled]
  rfl

theorem ends_at_final (dialog : WizardDialog) (before : List Action) (action : Action)
    (after : List Action) (status : WizardStatus) (signal : Outcome RelationshipDescriptor)
    (ended : dialog.EndsAt before action after status signal) :
    (dialog.run (before ++ action :: after)).wizard.closed = true ∧
      (dialog.run (before ++ action :: after)).wizard.data = (dialog.run before).wizard.data := by
  have final : (dialog.run (before ++ [action])).wizard.closed = true := by
    rw [ended.closed]
    exact ends_final _ _ _ _ ended.ends
  obtain ⟨still, same⟩ := run_closed _ after final
  rw [run_cut] at still same
  refine ⟨still, same.trans ?_⟩
  rw [ended.closed]
  rfl

theorem run_ends_once (dialog : WizardDialog) (actions : List Action)
    (active : dialog.wizard.closed = false) :
    (dialog.run actions).wizard.closed = false ∧ dialog.sent actions = [] ∨
      ∃ before action after status signal, actions = before ++ action :: after ∧
        dialog.EndsAt before action after status signal := by
  rcases announced_once step_announces dialog actions active with
    unended | ⟨before, action, after, signal, rfl, cut⟩
  · exact .inl unended
  · rcases step_cases (dialog.run before) action with ⟨status, final, ends, same⟩ | ⟨unended, _⟩
    · have heard := ends_signals _ _ _ _ ends
      cases heard.symm.trans cut.heard
      refine .inr ⟨before, action, after, status, _, rfl, ends, ?_, cut.silent, heard, ?_⟩
      · rw [run_concat, same]
      · rw [run_concat]
        exact (announced_final step_announces _ after cut.final).2
    · cases (no_signals _ action unended).symm.trans cut.heard

theorem run_silent (dialog : WizardDialog) (actions : List Action)
    (active : dialog.wizard.closed = false)
    (unclosed : (dialog.run actions).wizard.closed = false) : dialog.sent actions = [] := by
  rcases run_ends_once dialog actions active with
    ⟨_, silent⟩ | ⟨before, action, after, status, signal, rfl, ended⟩
  · exact silent
  · cases unclosed.symm.trans (ends_at_final _ _ _ _ _ _ ended).1

theorem run_ended (dialog : WizardDialog) (actions : List Action)
    (active : dialog.wizard.closed = false)
    (closed : (dialog.run actions).wizard.closed = true) :
    ∃ before action after status signal, actions = before ++ action :: after ∧
      dialog.EndsAt before action after status signal := by
  rcases run_ends_once dialog actions active with ⟨unclosed, _⟩ | ended
  · cases unclosed.symm.trans closed
  · exact ended

theorem taken_or_kept (dialog : WizardDialog) (actions : List Action)
    (empty : dialog.modal.outcome = none) :
    dialog.taken actions ++ (dialog.run actions).modal.outcome.toList = dialog.sent actions :=
  announced_taken step_announces dialog actions empty

theorem sent_at_most_one (dialog : WizardDialog) (actions : List Action)
    (active : dialog.wizard.closed = false) : (dialog.sent actions).length ≤ 1 := by
  rcases run_ends_once dialog actions active with
    ⟨_, silent⟩ | ⟨before, action, after, status, signal, rfl, ended⟩
  · rw [silent]
    exact Nat.zero_le 1
  · rw [ends_at_sent _ _ _ _ _ _ ended]
    exact Nat.le_refl 1

theorem finish_done_iff (dialog : WizardDialog) :
    (dialog.step .finish).2 = .done ↔
      dialog.wizard.closed = false ∧ dialog.wizard.finishDisabled = false := by
  rw [← Bool.not_eq_true dialog.wizard.finishDisabled, finish_disabled_iff]
  cases active : dialog.wizard.closed with
  | true => simp [step, finish, Wizard.finish, active, bind, Except.bind]
  | false =>
      cases complete : dialog.wizard.descriptor? <;>
        simp [step, finish, Wizard.finish, active, complete, bind, Except.bind, pure, Except.pure]

theorem step_refused (dialog : WizardDialog) (action : Action) (refusable : action.refusable = true)
    (closed : dialog.wizard.closed = true) :
    dialog.step action = (dialog, .failed .flowClosed) := by
  cases action with
  | selectRelationship type => simp [step, selectRelationship, closed, attempt]
  | selectTarget target capability => simp [step, selectTarget, closed, attempt]
  | setName name => simp [step, setName, closed, attempt]
  | finish => simp [step, finish, Wizard.finish, closed, bind, Except.bind]
  | _ => cases refusable

structure SignalsOnce (dialog : WizardDialog) (actions : List Action) : Prop where
  silent : (dialog.run actions).wizard.closed = false → dialog.sent actions = []
  ended : (dialog.run actions).wizard.closed = true →
    ∃ before action after status signal, actions = before ++ action :: after ∧
      dialog.EndsAt before action after status signal
  taken : dialog.taken actions ++ (dialog.run actions).modal.outcome.toList = dialog.sent actions
  atMostOne : (dialog.taken actions).length ≤ 1
  finishes : ((dialog.run actions).step .finish).2 = .done ↔
    (dialog.run actions).wizard.closed = false ∧ (dialog.run actions).wizard.finishDisabled = false
  closes : ((dialog.run actions).step .finish).2 = .done →
    ∃ descriptor, (dialog.run actions).wizard.descriptor? = some descriptor ∧
      dialog.sent (actions ++ [.finish]) = [.closed descriptor]
  dismisses : (dialog.run actions).wizard.closed = false →
    dialog.sent (actions ++ [.cancel]) = [.dismissed "cancel"]
  named : NameSettled (dialog.run actions).wizard.data
  delivered : ∀ descriptor, .closed descriptor ∈ dialog.sent actions →
    (dialog.run actions).wizard.descriptor? = some descriptor
  refused : (dialog.run actions).wizard.closed = true → ∀ action, action.refusable = true →
    (dialog.run actions).step action = (dialog.run actions, .failed .flowClosed)

theorem opened_settled (scope : Scope) (topology : Topology) (pending : Option Pending)
    (actions : List Action) :
    NameSettled ((opened scope topology pending).run actions).wizard.data :=
  run_keeps (fun wizard => NameSettled wizard.data) turn_settled (fun _ _ _ settled => settled)
    (opened scope topology pending) actions nofun

theorem finish_closes (dialog : WizardDialog) (actions : List Action)
    (active : dialog.wizard.closed = false)
    (done : ((dialog.run actions).step .finish).2 = .done) :
    ∃ descriptor, (dialog.run actions).wizard.descriptor? = some descriptor ∧
      dialog.sent (actions ++ [.finish]) = [.closed descriptor] := by
  obtain ⟨unclosed, enabled⟩ := (finish_done_iff _).mp done
  cases complete : (dialog.run actions).wizard.descriptor? with
  | none => cases enabled.symm.trans ((finish_disabled_iff _).mpr complete)
  | some descriptor =>
      refine ⟨descriptor, rfl, ?_⟩
      rw [sent_concat, run_silent dialog actions active unclosed]
      exact ends_signals _ _ _ _ (.finished unclosed complete)

theorem delivered_stays (dialog : WizardDialog) (actions : List Action)
    (descriptor : RelationshipDescriptor) (active : dialog.wizard.closed = false)
    (delivered : .closed descriptor ∈ dialog.sent actions) :
    (dialog.run actions).wizard.descriptor? = some descriptor := by
  rcases run_ends_once dialog actions active with
    ⟨_, silent⟩ | ⟨before, action, after, status, signal, rfl, ended⟩
  · rw [silent] at delivered
    cases delivered
  · rw [ends_at_sent _ _ _ _ _ _ ended, List.mem_singleton] at delivered
    subst delivered
    have same := (ends_at_final _ _ _ _ _ _ ended).2
    cases ended.ends with
    | finished _ complete => rwa [descriptor?, same]

theorem signals_once (scope : Scope) (topology : Topology) (pending : Option Pending)
    (actions : List Action) : SignalsOnce (opened scope topology pending) actions where
  silent := run_silent _ actions rfl
  ended := run_ended _ actions rfl
  taken := taken_or_kept _ actions rfl
  atMostOne := by
    have all := congrArg List.length (taken_or_kept (opened scope topology pending) actions rfl)
    have bound := sent_at_most_one (opened scope topology pending) actions rfl
    rw [List.length_append] at all
    omega
  finishes := finish_done_iff _
  closes := finish_closes _ actions rfl
  dismisses := by
    intro unclosed
    rw [sent_concat, run_silent _ actions rfl unclosed]
    exact ends_signals _ _ _ _ (.cancelled unclosed)
  named := opened_settled scope topology pending actions
  delivered := fun descriptor => delivered_stays _ actions descriptor rfl
  refused := fun closed action refusable => step_refused _ action refusable closed

end WizardDialog

end Wiring
