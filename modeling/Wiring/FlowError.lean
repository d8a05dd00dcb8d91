/-!
Why a step of a dialog is refused.
-/

namespace Wiring

inductive Missing where
  | node
  | state
  | relationship
  deriving DecidableEq, Repr

def Missing.message : Missing → String
  | .node => "no node template selected"
  | .state => "no state selected"
  | .relationship => "relationship type, target and name are required"

inductive FlowError where
  | incompleteSelection (missing : Missing)
  | flowClosed
  | unknownNodeTemplate (id : String)
  | unknownCapability (node capability : String)
  | resolutionFailed (message : String)
  | noRuntime
  | resolutionDropped
  deriving DecidableEq, Repr

def FlowError.message (flow : String) : FlowError → String
  | .incompleteSelection missing => s!"Selection is incomplete: {missing.message}"
  | .flowClosed => s!"Flow {flow} is already closed"
  | .unknownNodeTemplate id => s!"Node template not found: {id}"
  | .unknownCapability node capability =>
      s!"Capability {capability} not found on node template {node}"
  | .resolutionFailed message => s!"Target resolution failed: {message}"
  | .noRuntime => "No tokio runtime available to resolve targets"
  | .resolutionDropped => "Target resolution task was dropped before completing"

end Wiring
