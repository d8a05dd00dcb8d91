import Wiring.FlowError
import Wiring.Lifecycle
import Wiring.Outcome
import Wiring.Topology

/-!
The dialog in which a node template and one of its states are chosen. A new
choice of a template takes the state back. `StateDialog` is the dialog together
with the slot that its end is signalled to; `StateDialog.run` is any sequence of
its operations.
-/

namespace Wiring

structure StateSelection where
  node : String
  state : LifecycleState
  deriving DecidableEq, Repr, Inhabited

structure StateFlow where
  nodes : List String
  node : Option String := none
  states : List LifecycleState := []
  state : Option LifecycleState := none
  closed : Bool := false
  deriving DecidableEq, Repr, Inhabited

namespace StateFlow

def start (topology : Topology) : StateFlow where
  nodes := topology.nodeTemplates.names

def selectNode (flow : StateFlow) (id : String) : StateFlow :=
  { flow with node := some id, state := none, states := LifecycleState.all }

def selectState (flow : StateFlow) (state : LifecycleState) : StateFlow :=
  { flow with state := some state }

def canSubmit (flow : StateFlow) : Bool :=
  !flow.closed && flow.node.isSome && flow.state.isSome

def selection (flow : StateFlow) : Except FlowError StateSelection :=
  if flow.closed then .error .flowClosed
  else
    match flow.node, flow.state with
    | none, _ => .error (.incompleteSelection .node)
    | some _, none => .error (.incompleteSelection .state)
    | some node, some state => .ok { node, state }

def submit [Modal μ StateSelection] (flow : StateFlow) (modal : μ) :
    Except FlowError (StateFlow × μ) := do
  let selection ← flow.selection
  return ({ flow with closed := true }, Modal.close modal selection)

def cancel [Modal μ StateSelection] (flow : StateFlow) (modal : μ) : StateFlow × μ :=
  if flow.closed then (flow, modal)
  else ({ flow with closed := true }, Modal.dismiss modal cancelReason)

end StateFlow

structure StateDialog where
  flow : StateFlow
  modal : OutcomeSlot StateSelection := {}
  deriving DecidableEq, Repr, Inhabited

inductive StateDialog.Action where
  | selectNode (id : String)
  | selectState (state : LifecycleState)
  | submit
  | cancel
  /-- The host takes the outcome that has been signalled. -/
  | take
  deriving DecidableEq, Repr

inductive StateDialog.Reply where
  | done
  | failed (error : FlowError)
  | took (outcome : Option (Outcome StateSelection))
  deriving DecidableEq, Repr

namespace StateDialog

def submit (dialog : StateDialog) : Except FlowError StateDialog := do
  let (flow, modal) ← dialog.flow.submit dialog.modal
  return { flow, modal }

def cancel (dialog : StateDialog) : StateDialog :=
  let (flow, modal) := dialog.flow.cancel dialog.modal
  { flow, modal }

def step (dialog : StateDialog) : Action → StateDialog × Reply
  | .selectNode id => ({ dialog with flow := dialog.flow.selectNode id }, .done)
  | .selectState state => ({ dialog with flow := dialog.flow.selectState state }, .done)
  | .submit =>
      match dialog.submit with
      | .ok submitted => (submitted, .done)
      | .error error => (dialog, .failed error)
  | .cancel => (dialog.cancel, .done)
  | .take => ({ dialog with modal := dialog.modal.take.2 }, .took dialog.modal.take.1)

def run (dialog : StateDialog) (actions : List Action) : StateDialog :=
  actions.foldl (fun current action => (current.step action).1) dialog

end StateDialog

end Wiring
