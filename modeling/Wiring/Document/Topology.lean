import Wiring.Document.Codec
import Wiring.Topology

/-!
The documents of a topology and of its parts.
-/

namespace Wiring.Document

def required (name : String) (codec : Codec α) (get : ρ → α) : Field ρ α where
  name; codec; get

def defaulted (name : String) (codec : Codec α) (get : ρ → α) (value : α) : Field ρ α where
  name; codec; get
  absent := some value

def optionally (name : String) (codec : Codec α) (get : ρ → Option α) : Field ρ (Option α) where
  name; get
  codec := .optional codec
  absent := some none
  omits := Option.isNone

def texts : Codec (List String) := .list .text

def capability : Codec Capability :=
  Fields.codec
    (.more (required "type" .text (·.type)) <|
      .more (optionally "upperBound" .bound (·.upperBound)) .done)
    Capability.mk

def requirement : Codec Requirement :=
  Fields.codec
    (.more (required "type" .text (·.type)) <|
      .more (optionally "relationshipType" .text (·.relationshipType)) <|
      .more (optionally "upperBound" .bound (·.upperBound)) .done)
    Requirement.mk

def relationship : Codec Relationship :=
  Fields.codec
    (.more (required "type" .text (·.type)) <|
      .more (required "target" .text (·.target)) <|
      .more (required "requirementName" .text (·.requirementName)) <|
      .more (optionally "targetedCapabilityName" .text (·.targetedCapabilityName)) .done)
    Relationship.mk

def nodeTemplate : Codec NodeTemplate :=
  Fields.codec
    (.more (required "type" .text (·.type)) <|
      .more (defaulted "capabilities" (.names capability) (·.capabilities) .empty) <|
      .more (defaulted "requirements" (.names requirement) (·.requirements) .empty) <|
      .more (defaulted "relationships" (.names relationship) (·.relationships) .empty) .done)
    NodeTemplate.mk

def nodeType : Codec NodeType :=
  Fields.codec
    (.more (required "elementId" .text (·.elementId)) <|
      .more (defaulted "derivedFrom" texts (·.derivedFrom) []) <|
      .more (defaulted "abstract" .flag (·.isAbstract) false) .done)
    NodeType.mk

def relationshipType : Codec RelationshipType :=
  Fields.codec
    (.more (required "elementId" .text (·.elementId)) <|
      .more (defaulted "validTargets" texts (·.validTargets) []) <|
      .more (defaulted "derivedFrom" texts (·.derivedFrom) []) .done)
    RelationshipType.mk

def capabilityType : Codec CapabilityType :=
  Fields.codec
    (.more (required "elementId" .text (·.elementId)) <|
      .more (defaulted "derivedFrom" texts (·.derivedFrom) []) .done)
    CapabilityType.mk

def dependency : Codec Dependency :=
  Fields.codec
    (.more (required "name" .text (·.name)) <|
      .more (required "version" .text (·.version)) .done)
    Dependency.mk

def topology : Codec Topology :=
  Fields.codec
    (.more (required "id" .text (·.id)) <|
      .more (defaulted "name" .text (·.name) "") <|
      .more (defaulted "nodeTemplates" (.names nodeTemplate) (·.nodeTemplates) .empty) <|
      .more (defaulted "nodeTypes" (.names nodeType) (·.nodeTypes) .empty) <|
      .more (defaulted "relationshipTypes" (.names relationshipType) (·.relationshipTypes)
        .empty) <|
      .more (defaulted "capabilityTypes" (.names capabilityType) (·.capabilityTypes) .empty) <|
      .more (defaulted "dependencies" (.list dependency) (·.dependencies) []) .done)
    Topology.mk

end Wiring.Document
