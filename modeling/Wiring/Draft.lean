import Wiring.Topology

/-!
Topologies drawn up step by step. A step that names something already there
replaces it; a node template is replaced whole.
-/

namespace Wiring.Draft

inductive Part where
  | capability (id type : String) (upperBound : Option UInt64)
  | requirement (name type : String) (relationshipType : Option String)
  | relationship (name type target requirementName capability : String)
  deriving DecidableEq, Repr

inductive Step where
  | name (name : String)
  | dependency (name version : String)
  | nodeType (id : String)
  | capabilityType (id : String) (parents : List String)
  | relationshipType (id : String) (validTargets : List String)
  | node (id type : String) (parts : List Part)
  deriving DecidableEq, Repr

def Part.add (template : NodeTemplate) : Part → NodeTemplate
  | .capability id type upperBound =>
      { template with capabilities := template.capabilities.insert id { type, upperBound } }
  | .requirement name type relationshipType =>
      { template with
        requirements := template.requirements.insert name { type, relationshipType } }
  | .relationship name type target requirementName offered =>
      { template with
        relationships := template.relationships.insert name
          { type, target, requirementName, targetedCapabilityName := some offered } }

def nodeTemplate (type : String) (parts : List Part) : NodeTemplate :=
  parts.foldl Part.add { type }

def Step.apply (topology : Topology) : Step → Topology
  | .name label => { topology with name := label }
  | .dependency archive version =>
      { topology with
        dependencies := topology.dependencies ++ [{ name := archive, version }] }
  | .nodeType id =>
      { topology with nodeTypes := topology.nodeTypes.insert id { elementId := id } }
  | .capabilityType id parents =>
      { topology with
        capabilityTypes := topology.capabilityTypes.insert id
          { elementId := id, derivedFrom := parents } }
  | .relationshipType id validTargets =>
      { topology with
        relationshipTypes := topology.relationshipTypes.insert id
          { elementId := id, validTargets } }
  | .node id type parts =>
      { topology with
        nodeTemplates := topology.nodeTemplates.insert id (nodeTemplate type parts) }

/-- An empty topology is called by its identifier until a step names it. -/
def build (id : String) (steps : List Step) : Topology :=
  steps.foldl Step.apply { id, name := id }

end Wiring.Draft
