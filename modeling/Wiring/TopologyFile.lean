import Wiring.Consistency
import Wiring.Document.Topology
import Wiring.Yaml.Place

/-!
Topologies from files. A file is loaded if it can be read as text, is a YAML
document of a topology, and that topology is consistent.
-/

namespace Wiring.TopologyFile

inductive LoadError where
  | unreadable
  | malformed
  | inconsistent (id : String) (cause : Dangling)
  deriving DecidableEq, Repr

def LoadError.headline (path : String) : LoadError → String
  | .unreadable => s!"Failed to read topology file {path}"
  | .malformed => s!"Invalid topology document in {path}"
  | .inconsistent id _ => s!"Topology {id} loaded from {path} is inconsistent"

def LoadError.message (path : String) : LoadError → String
  | .inconsistent id cause =>
      s!"{headline path (.inconsistent id cause)}: {cause.message}"
  | error => headline path error

def checked (topology : Topology) : Except LoadError Topology :=
  match topology.firstDangling? with
  | none => .ok topology
  | some cause => .error (.inconsistent topology.id cause)

def ofText (text : String) : Except LoadError Topology :=
  match Yaml.decode? Document.topology text with
  | none => .error .malformed
  | some topology => checked topology

def load : Option ByteArray → Except LoadError Topology
  | none => .error .unreadable
  | some bytes =>
      match String.fromUTF8? bytes with
      | none => .error .unreadable
      | some text => ofText text

end Wiring.TopologyFile
