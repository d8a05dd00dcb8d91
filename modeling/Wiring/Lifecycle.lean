/-!
The states that a node template goes through, each known by one word.
-/

namespace Wiring

inductive LifecycleState where
  | initial
  | creating
  | created
  | configuring
  | configured
  | starting
  | started
  | stopping
  | stopped
  | deleting
  | deleted
  deriving DecidableEq, Repr, Inhabited

namespace LifecycleState

def all : List LifecycleState :=
  [initial, creating, created, configuring, configured, starting, started, stopping, stopped,
    deleting, deleted]

def word : LifecycleState → String
  | initial => "initial"
  | creating => "creating"
  | created => "created"
  | configuring => "configuring"
  | configured => "configured"
  | starting => "starting"
  | started => "started"
  | stopping => "stopping"
  | stopped => "stopped"
  | deleting => "deleting"
  | deleted => "deleted"

def ofWord? (word : String) : Option LifecycleState :=
  all.find? fun state => state.word == word

def unknownMessage (word : String) : String :=
  s!"Unknown lifecycle state: {word}"

end LifecycleState

end Wiring
