import Wiring.Proofs.StateSelection
import Wiring.Proofs.Wizard.InFlight

/-!
What operations still do to a dialog that has ended. A closed wizard can be moved
between its steps and is otherwise left as it was. In a closed selection of a state
the template and its state can still be chosen, but not handed over.
-/

namespace Wiring

theorem fold_unchanged {State Action : Type} (change : State → Action → State) (state : State)
    (actions : List Action) (unchanged : ∀ action ∈ actions, change state action = state) :
    actions.foldl change state = state := by
  induction actions with
  | nil => rfl
  | cons action rest ih =>
      rw [List.foldl_cons, unchanged action List.mem_cons_self]
      exact ih fun other member => unchanged other (List.mem_cons_of_mem action member)

namespace Wizard

def movedStep (step : Nat) : WizardDialog.Action → Nat
  | .next => if step < totalSteps then step + 1 else step
  | .back => if 1 < step then step - 1 else step
  | _ => step

structure Shows (before after : Wizard) : Prop where
  phase : after.phase = before.phase
  data : after.data = before.data
  targets : after.targets = before.targets
  hiddenFilters : after.hiddenFilters = before.hiddenFilters
  resolutionError : after.resolutionError = before.resolutionError
  candidates : after.candidates = before.candidates
  descriptor : after.descriptor? = before.descriptor?
  finishDisabled : after.finishDisabled = before.finishDisabled
  resolving : after.resolving = before.resolving
  closed : after.closed = before.closed

/-- The phase of a closed wizard does not tell its step. -/
theorem moved_shows (wizard : Wizard) (step : Nat) (closed : wizard.closed = true) :
    wizard.Shows { wizard with step } := by
  refine ⟨?_, rfl, rfl, rfl, rfl, rfl, rfl, rfl, rfl, rfl⟩
  unfold phase
  cases status : wizard.status with
  | active => simp [Wizard.closed, status] at closed
  | finished | cancelled => rfl

end Wizard

namespace WizardDialog

open Wizard

def Abandoned (wizard : Wizard) : Prop :=
  wizard.closed = true → wizard.pending = none

theorem step_abandoned (dialog : WizardDialog) (action : Action)
    (abandoned : Abandoned dialog.wizard) : Abandoned (dialog.step action).1.wizard := by
  intro closed
  rcases step_cases dialog action with ⟨status, signal, _, same⟩ | ⟨_, turns, _⟩
  · rw [same]
    rfl
  · exact step_gone dialog action (abandoned ((turns_closed _ _ turns).symm.trans closed))

theorem opened_abandoned (scope : Scope) (topology : Topology) (pending : Option Pending)
    (actions : List Action) : Abandoned ((opened scope topology pending).run actions).wizard := by
  induction actions using List.reverseRecOn with
  | nil => exact nofun
  | append_singleton actions action ih =>
      rw [run_concat]
      exact step_abandoned _ action ih

theorem choosing_refused (dialog : WizardDialog) (action : Action)
    (choosing : action.choosing = true) (closed : dialog.wizard.closed = true) :
    (dialog.step action).1 = dialog := by
  rcases step_choosing dialog action choosing with ⟨after, chosen, _⟩ | ⟨error, same⟩
  · cases chosen with
    | related _ active | targeted _ _ _ active | named _ active => cases closed.symm.trans active
  · rw [same]

theorem step_closed (dialog : WizardDialog) (action : Action) (closed : dialog.wizard.closed = true)
    (gone : dialog.wizard.pending = none) :
    (dialog.step action).1.wizard =
      { dialog.wizard with step := movedStep dialog.wizard.step action } := by
  have unnoticed : dialog.wizard.noticed? action = none := by
    cases action <;> simp [noticed?, gone]
  by_cases choosing : action.choosing = true
  · have same : movedStep dialog.wizard.step action = dialog.wizard.step := by
      cases action <;> first | rfl | cases choosing
    rw [choosing_refused dialog action choosing closed, same]
  cases action with
  | selectRelationship | selectTarget | setName => exact absurd rfl choosing
  | next =>
      simp only [step, Wizard.next, movedStep]
      split <;> rfl
  | back =>
      simp only [step, Wizard.back, movedStep]
      split <;> rfl
  | finish =>
      cases finished : dialog.finish with
      | error error => simp only [step, finished, movedStep]
      | ok after => cases closed.symm.trans ((finish_iff _ _).mp finished).1
  | cancel =>
      simp only [step, cancel, Wizard.cancel, closed, if_true]
      rfl
  | take => rfl
  | arrive =>
      simp only [step, Wizard.arrive, gone, Option.map_none]
      rw [← gone]
      rfl
  | poll =>
      rw [step_poll, poll_noticed, unnoticed]
      rfl
  | resolve =>
      rw [step_resolve, resolve_noticed, unnoticed]
      rfl
  | apply answer =>
      simp only [step, applyAnswer, closed, if_true]
      rfl

theorem run_moves (dialog : WizardDialog) (actions : List Action)
    (closed : dialog.wizard.closed = true) (gone : dialog.wizard.pending = none) :
    (dialog.run actions).wizard =
      { dialog.wizard with step := actions.foldl movedStep dialog.wizard.step } := by
  induction actions generalizing dialog with
  | nil => rfl
  | cons action rest ih =>
      have first := step_closed dialog action closed gone
      have still : (dialog.step action).1.wizard.closed = true := by
        rw [first]
        exact closed
      have given : (dialog.step action).1.wizard.pending = none := by
        rw [first]
        exact gone
      have others := ih (dialog.step action).1 still given
      rw [first] at others
      exact others

def Action.moves : Action → Bool
  | .next | .back => true
  | _ => false

theorem unmoved_step (step : Nat) (action : Action) (unmoved : action.moves = false) :
    movedStep step action = step := by
  cases action with
  | next | back => cases unmoved
  | _ => rfl

structure OnlyMoves (dialog : WizardDialog) (before later : List Action) : Prop where
  shows : (dialog.run before).wizard.Shows (dialog.run (before ++ later)).wizard
  step : (dialog.run (before ++ later)).wizard.step =
    later.foldl movedStep (dialog.run before).wizard.step
  unmoved : (∀ action ∈ later, action.moves = false) →
    (dialog.run (before ++ later)).wizard = (dialog.run before).wizard

theorem opened_only_moves (scope : Scope) (topology : Topology) (pending : Option Pending)
    (before later : List Action)
    (closed : ((opened scope topology pending).run before).wizard.closed = true) :
    OnlyMoves (opened scope topology pending) before later := by
  have gone := opened_abandoned scope topology pending before closed
  have moved := run_moves _ later closed gone
  rw [← run_append] at moved
  constructor
  · rw [moved]
    exact moved_shows _ _ closed
  · rw [moved]
  · intro unmoved
    rw [moved, fold_unchanged movedStep _ later fun action member =>
      unmoved_step _ action (unmoved action member)]

end WizardDialog

namespace StateDialog

theorem step_chosen (dialog : StateDialog) (action : Action) (closed : dialog.flow.closed = true) :
    (dialog.step action).1.flow = dialog.flow.chosen action := by
  rcases step_cases dialog action with ⟨signal, ends, _, _⟩ | ⟨_, _, same⟩
  · cases closed.symm.trans (ends_active _ _ _ ends)
  · rw [same]

theorem run_chooses (dialog : StateDialog) (actions : List Action)
    (closed : dialog.flow.closed = true) :
    (dialog.run actions).flow = actions.foldl StateFlow.chosen dialog.flow := by
  induction actions generalizing dialog with
  | nil => rfl
  | cons action rest ih =>
      have first := step_chosen dialog action closed
      have still : (dialog.step action).1.flow.closed = true := by
        rw [first, chosen_closed, closed]
      rw [List.foldl_cons, ← first]
      exact ih (dialog.step action).1 still

def Action.selects (action : Action) : Bool :=
  action.selectsNode || action.selectsState

theorem unselected_flow (flow : StateFlow) (action : Action) (unselected : action.selects = false) :
    flow.chosen action = flow := by
  cases action with
  | selectNode | selectState => cases unselected
  | _ => rfl

theorem chosen_nodes (flow : StateFlow) (actions : List Action) :
    (actions.foldl StateFlow.chosen flow).nodes = flow.nodes ∧
      (actions.foldl StateFlow.chosen flow).closed = flow.closed := by
  induction actions generalizing flow with
  | nil => exact ⟨rfl, rfl⟩
  | cons action rest ih =>
      have first : (flow.chosen action).nodes = flow.nodes ∧
          (flow.chosen action).closed = flow.closed := by
        cases action <;> exact ⟨rfl, rfl⟩
      obtain ⟨nodes, closed⟩ := ih (flow.chosen action)
      exact ⟨nodes.trans first.1, closed.trans first.2⟩

theorem closed_submits (flow : StateFlow) (closed : flow.closed = true) :
    flow.canSubmit = false := by
  rw [StateFlow.canSubmit, closed]
  rfl

structure OnlyChooses (dialog : StateDialog) (before later : List Action) : Prop where
  flow : (dialog.run (before ++ later)).flow =
    later.foldl StateFlow.chosen (dialog.run before).flow
  nodes : (dialog.run (before ++ later)).flow.nodes = (dialog.run before).flow.nodes
  final : (dialog.run (before ++ later)).flow.closed = true ∧
    (dialog.run before).flow.canSubmit = false ∧
    (dialog.run (before ++ later)).flow.canSubmit = false
  unselected : (∀ action ∈ later, action.selects = false) →
    (dialog.run (before ++ later)).flow = (dialog.run before).flow

theorem closed_only_chooses (dialog : StateDialog) (before later : List Action)
    (closed : (dialog.run before).flow.closed = true) : OnlyChooses dialog before later := by
  have chosen : (dialog.run (before ++ later)).flow =
      later.foldl StateFlow.chosen (dialog.run before).flow := by
    rw [run, List.foldl_append]
    exact run_chooses (dialog.run before) later closed
  obtain ⟨nodes, still⟩ := chosen_nodes (dialog.run before).flow later
  rw [← chosen] at nodes still
  have final := still.trans closed
  refine ⟨chosen, nodes, ⟨final, closed_submits _ closed, closed_submits _ final⟩, ?_⟩
  intro unselected
  rw [chosen, fold_unchanged StateFlow.chosen _ later fun action member =>
    unselected_flow _ action (unselected action member)]

end StateDialog

/-- A closed wizard still counts its steps, and a closed selection of a state still takes choices;
all else stays as the end left it. -/
theorem closed_dialogs_keep (scope : Scope) (topology : Topology) (pending : Option Pending) :
    (∀ before later,
      ((WizardDialog.opened scope topology pending).run before).wizard.closed = true →
        WizardDialog.OnlyMoves (.opened scope topology pending) before later) ∧
      ∀ before later,
        (StateDialog.run { flow := .start topology } before).flow.closed = true →
          StateDialog.OnlyChooses { flow := .start topology } before later :=
  ⟨WizardDialog.opened_only_moves scope topology pending,
    StateDialog.closed_only_chooses { flow := .start topology }⟩

def pair : Topology where
  id := "web-app"
  nodeTemplates := .ofList [
    ("app", {
      type := "war", requirements := .ofList [("host", { type := "container" })] }),
    ("server", { type := "compute" })]

def pairScope : Scope where
  source := "app"
  requirementName := "host"
  requirement := { type := "container" }

def submitted : List StateDialog.Action := [
  .selectNode "app", .selectState .started, .submit]

/-- A wizard moves on after its end, and another template is chosen after one was handed over. -/
theorem closed_dialogs_stir :
    (WizardDialog.OnlyMoves (.opened pairScope pair none) [.cancel] [.next] ∧
      ((WizardDialog.opened pairScope pair none).run [.cancel]).wizard.step = 1 ∧
      ((WizardDialog.opened pairScope pair none).run ([.cancel] ++ [.next])).wizard.step = 2) ∧
    StateDialog.OnlyChooses { flow := .start pair } submitted [.selectNode "server"] ∧
      (StateDialog.run { flow := .start pair } submitted).flow.node = some "app" ∧
      (StateDialog.run { flow := .start pair }
        (submitted ++ [.selectNode "server"])).flow.node = some "server" :=
  ⟨⟨(closed_dialogs_keep pairScope pair none).1 [.cancel] [.next] rfl, rfl, rfl⟩,
    (closed_dialogs_keep pairScope pair none).2 submitted [.selectNode "server"] rfl, rfl, rfl⟩

end Wiring
