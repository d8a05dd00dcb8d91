import Mathlib.Data.List.Induction
import Wiring.Proofs.Signals
import Wiring.StateSelection

/-!
The selection of a template and its state that a dialog hands over. It is told from
the operations so far: the last template that they select, and the last state that
they select after it. The dialog signals once, when it ends.
-/

namespace Wiring

namespace StateFlow

theorem selection_iff (flow : StateFlow) (selection : StateSelection) :
    flow.selection = .ok selection ↔
      flow.closed = false ∧ flow.node = some selection.node ∧
        flow.state = some selection.state := by
  obtain ⟨node, state⟩ := selection
  unfold StateFlow.selection
  cases flow.closed <;> cases flow.node <;> cases flow.state <;> simp

theorem can_submit_iff (flow : StateFlow) :
    flow.canSubmit = true ↔ ∃ selection, flow.selection = .ok selection := by
  unfold canSubmit StateFlow.selection
  cases flow.closed <;> cases flow.node <;> cases flow.state <;> simp

theorem selection_incomplete_iff (flow : StateFlow) :
    (∃ missing, flow.selection = .error (.incompleteSelection missing)) ↔
      flow.closed = false ∧ (flow.node = none ∨ flow.state = none) := by
  unfold StateFlow.selection
  cases flow.closed <;> cases flow.node <;> cases flow.state <;> simp

theorem selection_closed (flow : StateFlow) (closed : flow.closed = true) :
    flow.selection = .error .flowClosed := by
  rw [StateFlow.selection, if_pos closed]

def signals (flow : StateFlow) : StateDialog.Action → List (Outcome StateSelection)
  | .submit =>
      match flow.submit ([] : List (Outcome StateSelection)) with
      | .ok (_, heard) => heard
      | .error _ => []
  | .cancel => (flow.cancel ([] : List (Outcome StateSelection))).2
  | _ => []

theorem signals_submit (flow : StateFlow) (selection : StateSelection)
    (selected : flow.selection = .ok selection) : flow.signals .submit = [.closed selection] := by
  rw [signals, submit, selected]
  rfl

theorem signals_cancel (flow : StateFlow) (active : flow.closed = false) :
    flow.signals .cancel = [.dismissed cancelReason] := by
  simp only [signals, cancel, active, Bool.false_eq_true, if_false]
  rfl

def chosen (flow : StateFlow) : StateDialog.Action → StateFlow
  | .selectNode id => flow.selectNode id
  | .selectState state => flow.selectState state
  | _ => flow

end StateFlow

namespace StateDialog

inductive Ends (dialog : StateDialog) : Action → Outcome StateSelection → Prop where
  | submitted {selection : StateSelection} (selected : dialog.flow.selection = .ok selection) :
      Ends dialog .submit (.closed selection)
  | cancelled (active : dialog.flow.closed = false) :
      Ends dialog .cancel (.dismissed cancelReason)

theorem ends_active (dialog : StateDialog) (action : Action) (signal : Outcome StateSelection)
    (ends : dialog.Ends action signal) : dialog.flow.closed = false := by
  cases ends with
  | submitted selected => exact ((StateFlow.selection_iff _ _).mp selected).1
  | cancelled active => exact active

def slotAfter (dialog : StateDialog) : Action → OutcomeSlot StateSelection
  | .take => {}
  | _ => dialog.modal

theorem submit_selected (dialog : StateDialog) (selection : StateSelection)
    (selected : dialog.flow.selection = .ok selection) :
    dialog.submit =
      .ok ⟨{ dialog.flow with closed := true }, dialog.modal.signal (.closed selection)⟩ := by
  rw [submit, StateFlow.submit, selected]
  rfl

theorem submit_refused (dialog : StateDialog) (error : FlowError)
    (refused : dialog.flow.selection = .error error) : dialog.submit = .error error := by
  rw [submit, StateFlow.submit, refused]
  rfl

theorem step_refused (dialog : StateDialog) (error : FlowError)
    (refused : dialog.flow.selection = .error error) :
    dialog.step .submit = (dialog, .failed error) ∧ dialog.flow.signals .submit = [] := by
  constructor
  · rw [step, submit_refused dialog error refused]
  · rw [StateFlow.signals, StateFlow.submit, refused]
    rfl

theorem step_cancel_closed (dialog : StateDialog) (closed : dialog.flow.closed = true) :
    dialog.step .cancel = (dialog, .done) := by
  rw [step, cancel, StateFlow.cancel, if_pos closed]

/-- An operation ends the dialog with a signal, or it gives none and has only its own effect on the
choices and the slot. -/
theorem step_cases (dialog : StateDialog) (action : Action) :
    (∃ signal, dialog.Ends action signal ∧ dialog.flow.signals action = [signal] ∧
      dialog.step action =
        (⟨{ dialog.flow with closed := true }, dialog.modal.signal signal⟩, .done)) ∨
    (∀ signal, ¬ dialog.Ends action signal) ∧ dialog.flow.signals action = [] ∧
      (dialog.step action).1 = ⟨dialog.flow.chosen action, dialog.slotAfter action⟩ := by
  cases action with
  | selectNode | selectState | take => exact .inr ⟨nofun, rfl, rfl⟩
  | submit =>
      cases selected : dialog.flow.selection with
      | ok selection =>
          refine .inl ⟨.closed selection, .submitted selected, ?_, ?_⟩
          · exact StateFlow.signals_submit _ selection selected
          · rw [step, submit_selected dialog selection selected]
      | error error =>
          obtain ⟨same, silent⟩ := step_refused dialog error selected
          refine .inr ⟨?_, silent, congrArg Prod.fst same⟩
          rintro _ ⟨accepted⟩
          cases selected.symm.trans accepted
  | cancel =>
      cases active : dialog.flow.closed with
      | false =>
          refine .inl ⟨.dismissed cancelReason, .cancelled active,
            StateFlow.signals_cancel _ active, ?_⟩
          simp only [step, cancel, StateFlow.cancel, active, Bool.false_eq_true, if_false]
          rfl
      | true =>
          refine .inr ⟨?_, ?_, congrArg Prod.fst (step_cancel_closed dialog active)⟩
          · intro signal ends
            cases active.symm.trans (ends_active dialog .cancel signal ends)
          · rw [StateFlow.signals, StateFlow.cancel, if_pos active]

theorem chosen_closed (flow : StateFlow) (action : Action) :
    (flow.chosen action).closed = flow.closed := by
  cases action <;> rfl

theorem run_concat (dialog : StateDialog) (actions : List Action) (action : Action) :
    dialog.run (actions ++ [action]) = ((dialog.run actions).step action).1 := by
  rw [run, List.foldl_append]
  rfl

def sent (dialog : StateDialog) (actions : List Action) : List (Outcome StateSelection) :=
  gathered (fun current action => (current.step action).1)
    (fun current action => current.flow.signals action) dialog actions

theorem sent_concat (dialog : StateDialog) (actions : List Action) (action : Action) :
    dialog.sent (actions ++ [action]) =
      dialog.sent actions ++ (dialog.run actions).flow.signals action :=
  gathered_concat _ _ dialog actions action

def takes (dialog : StateDialog) : Action → List (Outcome StateSelection)
  | .take => dialog.modal.take.1.toList
  | _ => []

def taken (dialog : StateDialog) (actions : List Action) : List (Outcome StateSelection) :=
  gathered (fun current action => (current.step action).1) takes dialog actions

theorem step_announces (dialog : StateDialog) (action : Action) :
    Announces (fun current action => (current.step action).1) (fun current => current.flow.closed)
      StateDialog.modal (fun current action => current.flow.signals action) takes dialog
      action := by
  rcases step_cases dialog action with ⟨signal, ends, heard, same⟩ | ⟨_, silent, same⟩
  · refine .ends (ends_active _ _ _ ends) ?_ heard ?_ ?_
    · rw [same]
    · cases ends <;> rfl
    · rw [same]
  · refine .passes ?_ silent ?_
    · rw [same, chosen_closed]
    · rw [same]
      cases action with
      | take => exact List.append_nil _
      | _ => rfl

theorem taken_or_kept (dialog : StateDialog) (actions : List Action)
    (empty : dialog.modal.outcome = none) :
    dialog.taken actions ++ (dialog.run actions).modal.outcome.toList = dialog.sent actions :=
  announced_taken step_announces dialog actions empty

/-- A run is cut at the operation that ends the dialog, the only one that signals. -/
def EndsAt (dialog : StateDialog) (before : List Action) (action : Action) (after : List Action)
    (signal : Outcome StateSelection) : Prop :=
  (dialog.run before).Ends action signal ∧ dialog.sent (before ++ action :: after) = [signal]

theorem run_ends_once (dialog : StateDialog) (actions : List Action)
    (active : dialog.flow.closed = false) :
    (dialog.run actions).flow.closed = false ∧ dialog.sent actions = [] ∨
      (dialog.run actions).flow.closed = true ∧ ∃ before action after signal,
        actions = before ++ action :: after ∧ dialog.EndsAt before action after signal := by
  rcases announced_once step_announces dialog actions active with
    unended | ⟨before, action, after, signal, rfl, cut⟩
  · exact .inl unended
  · obtain ⟨closed, once⟩ := cut_final step_announces dialog before action after signal cut
    refine .inr ⟨closed, before, action, after, signal, rfl, ?_, once⟩
    rcases step_cases (dialog.run before) action with ⟨final, ends, heard, _⟩ | ⟨_, silent, _⟩
    · cases heard.symm.trans cut.heard
      exact ends
    · cases silent.symm.trans cut.heard

theorem active_iff_silent (dialog : StateDialog) (actions : List Action)
    (active : dialog.flow.closed = false) :
    (dialog.run actions).flow.closed = false ↔ dialog.sent actions = [] := by
  rcases run_ends_once dialog actions active with
    ⟨still, silent⟩ | ⟨closed, before, action, after, signal, rfl, _, once⟩
  · exact iff_of_true still silent
  · rw [closed, once]
    exact iff_of_false nofun nofun

def Action.selectsNode : Action → Bool
  | .selectNode _ => true
  | _ => false

def Action.selectsState : Action → Bool
  | .selectState _ => true
  | _ => false

def LastNode (actions : List Action) (node : String) : Prop :=
  ∃ before after, actions = before ++ .selectNode node :: after ∧
    ∀ action ∈ after, action.selectsNode = false

/-- The last node that some operations select, and the last state that they select after it. -/
def LastPair (actions : List Action) (node : String) (state : LifecycleState) : Prop :=
  ∃ before between after,
    actions = before ++ .selectNode node :: between ++ .selectState state :: after ∧
      (∀ action ∈ between, action.selectsNode = false) ∧
      ∀ action ∈ after, action.selectsNode = false ∧ action.selectsState = false

/-- A list that is cut at one of its values, and ends with another one or with just this one. -/
theorem concat_cut (init : List α) (last : α) (before : List α) (value : α) (after : List α)
    (cut : init ++ [last] = before ++ value :: after) :
    after = [] ∧ init = before ∧ last = value ∨
      ∃ rest, after = rest ++ [last] ∧ init = before ++ value :: rest := by
  cases after using List.reverseRecOn with
  | nil =>
      obtain ⟨same, ending⟩ := List.append_inj' cut rfl
      exact .inl ⟨rfl, same, List.singleton_inj.mp ending⟩
  | append_singleton rest final =>
      rw [← List.cons_append, ← List.append_assoc] at cut
      obtain ⟨same, ending⟩ := List.append_inj' cut rfl
      exact .inr ⟨rest, by rw [List.singleton_inj.mp ending], same⟩

theorem last_node_concat_iff (actions : List Action) (action : Action) (node : String) :
    LastNode (actions ++ [action]) node ↔
      action = .selectNode node ∨ action.selectsNode = false ∧ LastNode actions node := by
  constructor
  · rintro ⟨before, after, cut, others⟩
    rcases concat_cut _ _ _ _ _ cut with ⟨_, _, same⟩ | ⟨rest, rfl, rfl⟩
    · exact .inl same
    · obtain ⟨earlier, final⟩ := List.forall_mem_append.mp others
      exact .inr ⟨final action (List.mem_singleton_self _), before, rest, rfl, earlier⟩
  · rintro (rfl | ⟨other, before, after, rfl, others⟩)
    · exact ⟨actions, [], rfl, nofun⟩
    · refine ⟨before, after ++ [action], ?_, ?_⟩
      · rw [List.append_assoc, List.cons_append]
      · exact List.forall_mem_append.mpr ⟨others, List.forall_mem_singleton.mpr other⟩

theorem last_pair_concat_iff (actions : List Action) (action : Action) (node : String)
    (state : LifecycleState) :
    LastPair (actions ++ [action]) node state ↔
      action = .selectState state ∧ LastNode actions node ∨
        (action.selectsNode = false ∧ action.selectsState = false) ∧
          LastPair actions node state := by
  constructor
  · rintro ⟨before, between, after, cut, middle, others⟩
    rcases concat_cut _ _ _ _ _ cut with ⟨_, rfl, same⟩ | ⟨rest, rfl, rfl⟩
    · exact .inl ⟨same, before, between, rfl, middle⟩
    · obtain ⟨earlier, final⟩ := List.forall_mem_append.mp others
      exact .inr ⟨final action (List.mem_singleton_self _), before, between, rest, rfl, middle, earlier⟩
  · rintro (⟨rfl, before, between, rfl, middle⟩ |
      ⟨other, before, between, after, rfl, middle, others⟩)
    · exact ⟨before, between, [], rfl, middle, nofun⟩
    · refine ⟨before, between, after ++ [action], ?_, middle, ?_⟩
      · rw [List.append_assoc, List.cons_append]
      · exact List.forall_mem_append.mpr ⟨others, List.forall_mem_singleton.mpr other⟩

theorem last_node_iff_selected (actions : List Action) :
    (∃ node, LastNode actions node) ↔ actions.any Action.selectsNode = true := by
  induction actions using List.reverseRecOn with
  | nil => simp [LastNode]
  | append_singleton actions action ih =>
      rw [List.any_append, Bool.or_eq_true, ← ih]
      simp only [last_node_concat_iff]
      cases action <;> simp [Action.selectsNode]

structure Recalls (actions : List Action) (flow : StateFlow) : Prop where
  node : ∀ node, flow.node = some node ↔ LastNode actions node
  pair : ∀ node state, (flow.node = some node ∧ flow.state = some state) ↔
    LastPair actions node state

theorem chosen_recalls (actions : List Action) (flow : StateFlow) (action : Action)
    (recalls : Recalls actions flow) : Recalls (actions ++ [action]) (flow.chosen action) := by
  constructor
  · intro node
    rw [last_node_concat_iff, ← recalls.node]
    cases action <;>
      simp [StateFlow.chosen, StateFlow.selectNode, StateFlow.selectState, Action.selectsNode]
  · intro node state
    rw [last_pair_concat_iff, ← recalls.node, ← recalls.pair]
    cases action with
    | selectNode id =>
        -- A new node leaves no state behind.
        simp [StateFlow.chosen, StateFlow.selectNode, Action.selectsNode]
    | selectState chosen =>
        simp [StateFlow.chosen, StateFlow.selectState, Action.selectsState, and_comm]
    | submit | cancel | take =>
        simp [StateFlow.chosen, Action.selectsNode, Action.selectsState]

theorem step_flow (dialog : StateDialog) (action : Action) :
    ∃ closed, (dialog.step action).1.flow = { dialog.flow.chosen action with closed } := by
  rcases step_cases dialog action with ⟨signal, ends, _, same⟩ | ⟨_, _, same⟩
  · rw [same]
    cases ends <;> exact ⟨true, rfl⟩
  · rw [same]
    exact ⟨_, rfl⟩

theorem run_recalls (topology : Topology) (actions : List Action) :
    Recalls actions (run { flow := .start topology } actions).flow := by
  induction actions using List.reverseRecOn with
  | nil => constructor <;> simp [run, StateFlow.start, LastNode, LastPair]
  | append_singleton actions action ih =>
      obtain ⟨closed, same⟩ := step_flow (run { flow := .start topology } actions) action
      obtain ⟨node, pair⟩ := chosen_recalls actions _ action ih
      rw [run_concat, same]
      exact ⟨node, pair⟩

theorem run_states (dialog : StateDialog) (actions : List Action) :
    (dialog.run actions).flow.states =
      if actions.any Action.selectsNode then LifecycleState.all else dialog.flow.states := by
  induction actions using List.reverseRecOn with
  | nil => rfl
  | append_singleton actions action ih =>
      obtain ⟨closed, same⟩ := step_flow (dialog.run actions) action
      rw [run_concat, same, List.any_append]
      cases action with
      | selectNode id => simp [StateFlow.chosen, StateFlow.selectNode, Action.selectsNode]
      | _ => simpa [StateFlow.chosen, StateFlow.selectState, Action.selectsNode] using ih

theorem step_submit_reply (dialog : StateDialog) :
    (dialog.step .submit).2 =
      match dialog.flow.selection with
      | .ok _ => .done
      | .error error => .failed error := by
  cases selected : dialog.flow.selection with
  | ok selection => rw [step, submit_selected dialog selection selected]
  | error error => rw [(step_refused dialog error selected).1]

theorem submit_done_iff (dialog : StateDialog) :
    (dialog.step .submit).2 = .done ↔ ∃ selection, dialog.flow.selection = .ok selection := by
  rw [step_submit_reply]
  cases dialog.flow.selection <;> simp

theorem submit_failed_iff (dialog : StateDialog) (error : FlowError) :
    (dialog.step .submit).2 = .failed error ↔ dialog.flow.selection = .error error := by
  rw [step_submit_reply]
  cases dialog.flow.selection <;> simp

theorem run_delivers (topology : Topology) (actions : List Action) (selection : StateSelection)
    (delivered : .closed selection ∈ sent { flow := .start topology } actions) :
    ∃ before after, actions = before ++ .submit :: after ∧
      (run { flow := .start topology } before).flow.signals .submit = [.closed selection] ∧
      LastPair before selection.node selection.state := by
  rcases run_ends_once { flow := .start topology } actions rfl with
    ⟨_, silent⟩ | ⟨_, before, action, after, signal, rfl, ends, once⟩
  · rw [silent] at delivered
    cases delivered
  · rw [once, List.mem_singleton] at delivered
    subst delivered
    cases ends with
    | submitted selected =>
        obtain ⟨_, node, state⟩ := (StateFlow.selection_iff _ _).mp selected
        have last := ((run_recalls topology before).pair _ _).mp ⟨node, state⟩
        exact ⟨before, after, rfl, StateFlow.signals_submit _ selection selected, last⟩

structure SelectsOnce (dialog : StateDialog) (actions : List Action) : Prop where
  submits : (dialog.run actions).flow.canSubmit = true ↔
    ((dialog.run actions).step .submit).2 = .done
  submittable : (dialog.run actions).flow.canSubmit = true ↔
    (dialog.run actions).flow.closed = false ∧ ∃ node state, LastPair actions node state
  silent : (dialog.run actions).flow.closed = false ↔ dialog.sent actions = []
  ended : (dialog.run actions).flow.closed = true → ∃ before action after signal,
    actions = before ++ action :: after ∧ dialog.EndsAt before action after signal
  atMostOne : (dialog.sent actions).length ≤ 1
  taken : dialog.taken actions ++ (dialog.run actions).modal.outcome.toList = dialog.sent actions
  final : (dialog.run actions).flow.closed = true →
    (dialog.run actions).step .submit = (dialog.run actions, .failed .flowClosed) ∧
      (dialog.run actions).step .cancel = (dialog.run actions, .done)
  node : ∀ node, (dialog.run actions).flow.node = some node ↔ LastNode actions node
  unselected : (dialog.run actions).flow.node = none ↔ actions.any Action.selectsNode = false
  pair : ∀ node state, ((dialog.run actions).flow.node = some node ∧
    (dialog.run actions).flow.state = some state) ↔ LastPair actions node state
  delivers : ∀ node state, (dialog.run actions).flow.closed = false → LastPair actions node state →
    ((dialog.run actions).step .submit).2 = .done ∧
      dialog.sent (actions ++ [.submit]) = [.closed { node, state }]
  delivered : ∀ selection, .closed selection ∈ dialog.sent actions → ∃ before after,
    actions = before ++ .submit :: after ∧
      (dialog.run before).flow.signals .submit = [.closed selection] ∧
      LastPair before selection.node selection.state
  dismisses : (dialog.run actions).flow.closed = false →
    ((dialog.run actions).step .cancel).2 = .done ∧
      dialog.sent (actions ++ [.cancel]) = [.dismissed cancelReason]
  incomplete : (∃ missing, ((dialog.run actions).step .submit).2 =
      .failed (.incompleteSelection missing)) ↔
    (dialog.run actions).flow.closed = false ∧ ¬ ∃ node state, LastPair actions node state
  refused : ∀ error, ((dialog.run actions).step .submit).2 = .failed error →
    (dialog.run actions).step .submit = (dialog.run actions, .failed error) ∧
      (dialog.run actions).flow.signals .submit = []
  unoffered : actions.any Action.selectsNode = false → (dialog.run actions).flow.states = []
  offered : actions.any Action.selectsNode = true →
    (dialog.run actions).flow.states = LifecycleState.all ∧
      ∀ state, state ∈ (dialog.run actions).flow.states

theorem selected_iff_last (actions : List Action) (flow : StateFlow) (recalls : Recalls actions flow)
    (selection : StateSelection) :
    flow.selection = .ok selection ↔
      flow.closed = false ∧ LastPair actions selection.node selection.state := by
  rw [StateFlow.selection_iff, recalls.pair]

theorem submittable_iff_last (actions : List Action) (flow : StateFlow)
    (recalls : Recalls actions flow) :
    flow.canSubmit = true ↔ flow.closed = false ∧ ∃ node state, LastPair actions node state := by
  rw [StateFlow.can_submit_iff]
  simp only [selected_iff_last actions flow recalls]
  constructor
  · rintro ⟨selection, active, last⟩
    exact ⟨active, selection.node, selection.state, last⟩
  · rintro ⟨active, node, state, last⟩
    exact ⟨{ node, state }, active, last⟩

theorem incomplete_iff_last (actions : List Action) (flow : StateFlow)
    (recalls : Recalls actions flow) :
    (∃ missing, flow.selection = .error (.incompleteSelection missing)) ↔
      flow.closed = false ∧ ¬ ∃ node state, LastPair actions node state := by
  rw [StateFlow.selection_incomplete_iff]
  refine and_congr_right fun _ => ?_
  simp only [← recalls.pair]
  cases flow.node <;> cases flow.state <;> simp

theorem selects_once (topology : Topology) (actions : List Action) :
    SelectsOnce { flow := .start topology } actions := by
  have recalls := run_recalls topology actions
  have ends := run_ends_once { flow := .start topology } actions rfl
  have silent := active_iff_silent { flow := .start topology } actions rfl
  have states := run_states { flow := .start topology } actions
  constructor
  · rw [submit_done_iff]
    exact StateFlow.can_submit_iff _
  · exact submittable_iff_last actions _ recalls
  · exact silent
  · intro closed
    rcases ends with ⟨active, _⟩ | ⟨_, ended⟩
    · cases active.symm.trans closed
    · exact ended
  · rcases ends with ⟨_, silent⟩ | ⟨_, before, action, after, signal, rfl, _, once⟩
    · rw [silent]
      exact Nat.zero_le 1
    · rw [once]
      exact Nat.le_refl 1
  · exact taken_or_kept _ actions rfl
  · intro closed
    have refused := step_refused _ _ (StateFlow.selection_closed _ closed)
    exact ⟨refused.1, step_cancel_closed _ closed⟩
  · exact recalls.node
  · rw [Option.eq_none_iff_forall_ne_some, ← Bool.not_eq_true, ← last_node_iff_selected, not_exists]
    exact forall_congr' fun node => not_congr (recalls.node node)
  · exact recalls.pair
  · intro node state active last
    have selected := (selected_iff_last actions _ recalls { node, state }).mpr ⟨active, last⟩
    refine ⟨(submit_done_iff _).mpr ⟨_, selected⟩, ?_⟩
    rw [sent_concat, silent.mp active, StateFlow.signals_submit _ _ selected, List.nil_append]
  · exact run_delivers topology actions
  · intro active
    refine ⟨rfl, ?_⟩
    rw [sent_concat, silent.mp active, StateFlow.signals_cancel _ active, List.nil_append]
  · simp only [submit_failed_iff]
    exact incomplete_iff_last actions _ recalls
  · intro error failed
    exact step_refused _ error ((submit_failed_iff _ error).mp failed)
  · intro unselected
    rw [states, unselected]
    rfl
  · intro selected
    rw [selected, if_pos rfl] at states
    refine ⟨states, ?_⟩
    intro state
    rw [states]
    cases state <;> decide

/-- A state is chosen too early, and another one for a node that is then left for the next. -/
def hasty : List Action := [
  .selectState .started, .selectNode "tank", .selectState .stopped, .selectNode "pump"]

def plant : Topology where
  id := "plant"
  nodeTemplates := .ofList [("pump", { type := "device" }), ("tank", { type := "vessel" })]

theorem hasty_selects_once :
    (∃ missing, ((run { flow := .start plant } hasty).step .submit).2 =
      .failed (.incompleteSelection missing)) ∧
    LastPair (hasty ++ [.submit, .selectState .created]) "pump" .created ∧
      sent { flow := .start plant } (hasty ++ [.submit, .selectState .created] ++ [.submit]) =
        [.closed { node := "pump", state := .created }] := by
  have last : LastPair (hasty ++ [.submit, .selectState .created]) "pump" .created := by
    refine ⟨hasty.take 3, [.submit], [], rfl, ?_, nofun⟩
    intro action member
    rw [List.mem_singleton.mp member]
    rfl
  refine ⟨(selects_once plant hasty).incomplete.mpr ⟨rfl, ?_⟩, last, ?_⟩
  · rintro ⟨node, state, early⟩
    obtain ⟨_, chosen⟩ := ((selects_once plant hasty).pair node state).mpr early
    cases chosen
  · exact ((selects_once plant _).delivers "pump" .created rfl last).2

end StateDialog

end Wiring
