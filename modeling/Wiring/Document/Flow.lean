import Wiring.Document.Topology
import Wiring.StateSelection
import Wiring.Wizard

/-!
The documents of queries and their answers, of what the dialogs hold and of how
they end.
-/

namespace Wiring.Document

def nullable (name : String) (codec : Codec α) (get : ρ → Option α) : Field ρ (Option α) where
  name; get
  codec := .optional codec
  absent := some none

/-- A nullable field that the list form cannot leave out. -/
def nullableInPlace (name : String) (codec : Codec α) (get : ρ → Option α) :
    Field ρ (Option α) :=
  { nullable name codec get with trailing := false }

def targetQuery : Codec TargetQuery :=
  Fields.codec
    (.more (required "sourceElementName" .text (·.sourceElementName)) <|
      .more (required "requirement" requirement (·.requirement)) <|
      .more (required "requirementName" .text (·.requirementName)) <|
      .more (required "nodeTemplates" (.names nodeTemplate) (·.nodeTemplates)) <|
      .more (required "nodeTypes" (.names nodeType) (·.nodeTypes)) <|
      .more (required "relationshipTypes" (.names relationshipType) (·.relationshipTypes)) <|
      .more (required "capabilityTypes" (.names capabilityType) (·.capabilityTypes)) <|
      .more (required "dependencies" (.list dependency) (·.dependencies)) <|
      .more (optionally "preselectedTargetName" .text (·.preselectedTargetName)) .done)
    TargetQuery.mk

def matchedCapability : Codec MatchedCapability :=
  Fields.codec
    (.more (required "id" .text (·.id)) <|
      .more (required "type" .text (·.type)) .done)
    MatchedCapability.mk

def targetTemplate : Codec TargetTemplate :=
  Fields.codec (.more (required "name" .text (·.name)) .done) TargetTemplate.mk

def targetMatch : Codec TargetMatch :=
  Fields.codec
    (.more (required "template" targetTemplate (·.template)) <|
      .more (required "capabilities" (.list matchedCapability) (·.capabilities)) .done)
    TargetMatch.mk

/-- The preferred match is found under a second spelling too. -/
def preferredMatch : Field ResolvedTargets (Option TargetMatch) :=
  { nullable "preferredMatch" targetMatch (·.preferredMatch) with
    spelling := some "preferedMatch" }

def resolvedTargets : Codec ResolvedTargets :=
  Fields.codec
    (.more (defaulted "targets" (.list targetMatch) (·.targets) []) <|
      .more (nullable "relationshipType" relationshipType (·.relationshipType)) <|
      .more preferredMatch .done)
    ResolvedTargets.mk

def relationshipChoice : Codec RelationshipChoice :=
  Fields.codec
    (.more (nullableInPlace "relationship" relationshipType (·.relationship)) <|
      .more (nullableInPlace "target" .text (·.target)) <|
      .more (nullableInPlace "targetedCapabilityName" .text (·.targetedCapabilityName)) <|
      .more (nullableInPlace "name" .text (·.name)) .done)
    RelationshipChoice.mk

def relationshipDescriptor : Codec RelationshipDescriptor :=
  Fields.codec
    (.more (required "relationshipType" relationshipType (·.relationshipType)) <|
      .more (required "targetNodeId" .text (·.targetNodeId)) <|
      .more (nullableInPlace "targetedCapabilityId" .text (·.targetedCapabilityId)) <|
      .more (required "name" .text (·.name)) .done)
    RelationshipDescriptor.mk

def hiddenFilter : Codec HiddenFilter :=
  Fields.codec
    (.more (required "term" .text (·.term)) <|
      .more (required "facet" texts (·.facet)) .done)
    HiddenFilter.mk

def lifecycleState : Codec LifecycleState where
  write state := .string state.word
  read value := do
    let (word, held) ← Form.case value
    match ← held.mapM Form.present with
    | some (some _) => refused
    | _ => liftM (LifecycleState.ofWord? word)

def stateSelection : Codec StateSelection :=
  Fields.codec
    (.more (required "node" .text (·.node)) <|
      .more (required "state" lifecycleState (·.state)) .done)
    StateSelection.mk

def outcome (result : Codec α) : Codec (Outcome α) where
  write
    | .closed value => .object [("closed", result.write value)]
    | .dismissed reason => .object [("dismissed", .string reason)]
  read value := do
    match ← Form.case value with
    | ("closed", some held) => return .closed (← result.read held)
    | ("dismissed", some held) => return .dismissed (← Form.text held)
    | _ => refused

def stateOutcome : Codec (Outcome StateSelection) := outcome stateSelection

def relationshipOutcome : Codec (Outcome RelationshipDescriptor) := outcome relationshipDescriptor

def Codec.decode? (codec : Codec α) (text : String) : Option α := do
  codec.read (← Json.read? text)

def Codec.encode (codec : Codec α) (value : α) : String :=
  (codec.write value).toCompact

def Codec.encodeIndented (codec : Codec α) (value : α) : String :=
  (codec.write value).toIndented

def requestBody (query : TargetQuery) : String := targetQuery.encode query

end Wiring.Document
