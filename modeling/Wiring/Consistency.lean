import Wiring.Topology

/-!
A topology is consistent when every relationship in it leads to a node template
of the topology and, if it names a capability, to one that the template has.
`firstDangling?` reports the first relationship that does not, in the order of
the source names and then of the relationship names.
-/

namespace Wiring

def Relationship.Lands (relationship : Relationship) (templates : NameMap NodeTemplate) : Prop :=
  ∃ target, templates.find? relationship.target = some target ∧
    ∀ capability, relationship.targetedCapabilityName = some capability →
      target.capabilities.contains capability = true

def Topology.Consistent (topology : Topology) : Prop :=
  ∀ source ∈ topology.nodeTemplates.values, ∀ relationship ∈ source.relationships.values,
    relationship.Lands topology.nodeTemplates

inductive Dangling where
  | unknownTemplate (source name target : String)
  | unknownCapability (source name target capability : String)
  deriving DecidableEq, Repr

def Dangling.message : Dangling → String
  | .unknownTemplate source name target =>
      s!"Relationship {source}.{name} targets unknown node template {target}"
  | .unknownCapability source name target capability =>
      s!"Relationship {source}.{name} targets unknown capability {target}.{capability}"

def Relationship.dangling? (relationship : Relationship) (templates : NameMap NodeTemplate)
    (source name : String) : Option Dangling :=
  match templates.find? relationship.target with
  | none => some (.unknownTemplate source name relationship.target)
  | some target =>
      match relationship.targetedCapabilityName with
      | none => none
      | some capability =>
          if target.capabilities.contains capability then none
          else some (.unknownCapability source name relationship.target capability)

def Topology.firstDangling? (topology : Topology) : Option Dangling :=
  topology.nodeTemplates.entries.findSome? fun (source, template) =>
    template.relationships.entries.findSome? fun (name, relationship) =>
      relationship.dangling? topology.nodeTemplates source name

end Wiring
