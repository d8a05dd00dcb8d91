import Wiring.TypeHierarchy

/-!
Which node templates can fulfil a requirement of another one, and through which
of their capabilities. A query holds all that the answer depends on.
-/

namespace Wiring

structure Scope where
  source : String
  requirementName : String
  requirement : Requirement
  /-- A template that the author may already have in mind. -/
  preselected : Option String := none
  deriving DecidableEq, Repr, Inhabited

inductive ScopeError where
  | unknownSource (source : String)
  | unknownRequirement (requirement source : String)
  deriving DecidableEq, Repr

def ScopeError.message : ScopeError → String
  | .unknownSource source => s!"Node template not found: {source}"
  | .unknownRequirement requirement source => s!"Requirement {requirement} not found on {source}"

def Scope.ofRequirement (topology : Topology) (source requirementName : String) :
    Except ScopeError Scope :=
  match topology.nodeTemplates.find? source with
  | none => .error (.unknownSource source)
  | some template =>
      match template.requirements.find? requirementName with
      | none => .error (.unknownRequirement requirementName source)
      | some requirement => .ok { source, requirementName, requirement }

structure TargetQuery where
  sourceElementName : String
  requirement : Requirement
  requirementName : String
  nodeTemplates : NameMap NodeTemplate
  nodeTypes : NameMap NodeType
  relationshipTypes : NameMap RelationshipType
  capabilityTypes : NameMap CapabilityType
  dependencies : List Dependency
  preselectedTargetName : Option String := none
  deriving DecidableEq, Repr, Inhabited

def Scope.query (scope : Scope) (topology : Topology) : TargetQuery where
  sourceElementName := scope.source
  requirement := scope.requirement
  requirementName := scope.requirementName
  nodeTemplates := topology.nodeTemplates
  nodeTypes := topology.nodeTypes
  relationshipTypes := topology.relationshipTypes
  capabilityTypes := topology.capabilityTypes
  dependencies := topology.dependencies
  preselectedTargetName := scope.preselected

structure MatchedCapability where
  id : String
  type : String
  deriving DecidableEq, Repr, Inhabited

structure TargetTemplate where
  name : String
  deriving DecidableEq, Repr, Inhabited

structure TargetMatch where
  template : TargetTemplate
  capabilities : List MatchedCapability
  deriving DecidableEq, Repr, Inhabited

structure ResolvedTargets where
  targets : List TargetMatch := []
  relationshipType : Option RelationshipType := none
  preferredMatch : Option TargetMatch := none
  deriving DecidableEq, Repr, Inhabited

namespace TargetQuery

def saturated (query : TargetQuery) : Bool :=
  match query.requirement.upperBound, query.nodeTemplates.find? query.sourceElementName with
  | some bound, some source =>
      decide (bound.toNat ≤ source.fulfilmentCount query.requirementName)
  | _, _ => false

def hasRoom (query : TargetQuery) (template id : String) (capability : Capability) : Bool :=
  match capability.upperBound with
  | some bound => decide (incomingCount query.nodeTemplates template id < bound.toNat)
  | none => true

def eligible (query : TargetQuery) (template id : String) (capability : Capability) : Bool :=
  derivesFrom query.capabilityTypes capability.type query.requirement.type &&
    query.hasRoom template id capability

def eligibleCapabilities (query : TargetQuery) (name : String) (template : NodeTemplate) :
    List MatchedCapability :=
  template.capabilities.entries.filterMap fun (id, capability) =>
    if query.eligible name id capability then some { id, type := capability.type } else none

def targetOf? (query : TargetQuery) (name : String) (template : NodeTemplate) :
    Option TargetMatch :=
  if name = query.sourceElementName then none
  else
    match query.eligibleCapabilities name template with
    | [] => none
    | capabilities => some { template := { name }, capabilities }

def matchingTargets (query : TargetQuery) : List TargetMatch :=
  query.nodeTemplates.entries.filterMap fun (name, template) => query.targetOf? name template

def defaultRelationshipType? (query : TargetQuery) : Option RelationshipType :=
  query.requirement.relationshipType.map (relationshipTypeOf query.relationshipTypes)

def resolve (query : TargetQuery) : ResolvedTargets :=
  let relationshipType := query.defaultRelationshipType?
  if query.saturated then { relationshipType }
  else
    let targets := query.matchingTargets
    { targets, relationshipType
      preferredMatch := query.preselectedTargetName.bind fun wanted =>
        targets.find? fun target => target.template.name == wanted }

end TargetQuery

inductive Answer where
  | resolved (targets : ResolvedTargets)
  | failed (contexts : List String)
  deriving DecidableEq, Repr

inductive Resolver where
  | inProcess
  | remote (url : String)
  deriving DecidableEq, Repr

def scheme? (address : String) : Option (String × String) :=
  let isSchemeLetter (letter : Char) := letter.isAlphanum || ['+', '-', '.'].contains letter
  let (scheme, rest) := address.toList.span isSchemeLetter
  match rest with
  | ':' :: rest =>
      if scheme.head?.any Char.isAlpha then
        some (.ofList (scheme.map Char.toLower), .ofList rest)
      else none
  | _ => none

def hostSchemes : List String := ["http", "https", "ws", "wss", "ftp", "file"]

def refusal (address : String) : String :=
  match scheme? address with
  | some (scheme, rest) =>
      if hostSchemes.contains scheme then "builder error"
      else s!"builder error for url ({scheme}:{rest})"
  | none => "builder error"

/-- A remote resolver refuses every query: no request for its address can be built here. -/
def Resolver.answer (query : TargetQuery) : Resolver → Answer
  | .inProcess => .resolved query.resolve
  | .remote url => .failed [refusal url]

end Wiring
