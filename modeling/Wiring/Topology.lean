import Wiring.NameMap

/-!
Topologies: node templates with the capabilities they offer, the requirements
they have and the relationships that already leave them, together with the types
those refer to. An upper bound is a 64-bit word; a missing one is no bound.
-/

namespace Wiring

structure Capability where
  type : String
  upperBound : Option UInt64 := none
  deriving DecidableEq, Repr, Inhabited

structure Requirement where
  type : String
  relationshipType : Option String := none
  upperBound : Option UInt64 := none
  deriving DecidableEq, Repr, Inhabited

structure Relationship where
  type : String
  target : String
  requirementName : String
  targetedCapabilityName : Option String := none
  deriving DecidableEq, Repr, Inhabited

structure NodeTemplate where
  type : String
  capabilities : NameMap Capability := .empty
  requirements : NameMap Requirement := .empty
  relationships : NameMap Relationship := .empty
  deriving DecidableEq, Repr, Inhabited

structure NodeType where
  elementId : String
  derivedFrom : List String := []
  isAbstract : Bool := false
  deriving DecidableEq, Repr, Inhabited

structure RelationshipType where
  elementId : String
  validTargets : List String := []
  derivedFrom : List String := []
  deriving DecidableEq, Repr, Inhabited

structure CapabilityType where
  elementId : String
  derivedFrom : List String := []
  deriving DecidableEq, Repr, Inhabited

structure Dependency where
  name : String
  version : String
  deriving DecidableEq, Repr, Inhabited

structure Topology where
  id : String
  name : String := ""
  nodeTemplates : NameMap NodeTemplate := .empty
  nodeTypes : NameMap NodeType := .empty
  relationshipTypes : NameMap RelationshipType := .empty
  capabilityTypes : NameMap CapabilityType := .empty
  dependencies : List Dependency := []
  deriving DecidableEq, Repr, Inhabited

def Relationship.targets (relationship : Relationship) (template capability : String) : Bool :=
  relationship.target == template && relationship.targetedCapabilityName == some capability

def incomingCount (templates : NameMap NodeTemplate) (template capability : String) : Nat :=
  (templates.values.flatMap fun source => source.relationships.values).countP fun relationship =>
    relationship.targets template capability

def NodeTemplate.fulfilmentCount (template : NodeTemplate) (requirement : String) : Nat :=
  template.relationships.values.countP fun relationship =>
    relationship.requirementName == requirement

def NodeTemplate.capabilityType? (template : NodeTemplate) (capability : String) :
    Option String :=
  (template.capabilities.find? capability).map Capability.type

def Topology.capabilityType? (topology : Topology) (template capability : String) :
    Option String := do
  (← topology.nodeTemplates.find? template).capabilityType? capability

def relationshipTypeOf (types : NameMap RelationshipType) (id : String) : RelationshipType :=
  (types.find? id).getD { elementId := id }

def NodeTemplate.relate (template : NodeTemplate) (name : String) (relationship : Relationship) :
    NodeTemplate :=
  { template with relationships := template.relationships.insert name relationship }

def Topology.relate (topology : Topology) (source name : String) (relationship : Relationship) :
    Topology :=
  match topology.nodeTemplates.find? source with
  | none => topology
  | some template =>
      { topology with
        nodeTemplates := topology.nodeTemplates.insert source (template.relate name relationship) }

end Wiring
