import Wiring.Draft
import Wiring.Proofs.Matching

/-!
What a topology drawn up step by step looks like. Under a name stands what the last step
with that name has put there (in a node template, the last part), dependencies keep their
order, and neighbouring steps that have different places can be exchanged.
-/

namespace Wiring

theorem NameMap.insert_comm (map : NameMap α) (one other : String) (different : one ≠ other)
    (first second : α) :
    (map.insert one first).insert other second = (map.insert other second).insert one first := by
  refine ext_find _ _ fun name => ?_
  rw [find_insert, find_insert, find_insert, find_insert]
  by_cases here : name = one
  · rw [if_pos here, if_pos here, if_neg fun there => different (here.symm.trans there)]
  · rw [if_neg here, if_neg here]

namespace Draft

section

variable {σ τ α β : Type} (writes : σ → Option (String × β))

def Silent (steps : List σ) (name : String) : Prop :=
  ∀ step ∈ steps, ∀ content, writes step ≠ some (name, content)

/-- The last of the steps that write under a name writes this there. -/
def Latest (steps : List σ) (name : String) (content : β) : Prop :=
  ∃ before step after, steps = before ++ step :: after ∧ writes step = some (name, content) ∧
    Silent writes after name

theorem latest_nil (name : String) (content : β) : ¬ Latest writes [] name content := by
  rintro ⟨before, step, after, cut, _⟩
  cases before <;> cases cut

theorem latest_cons_iff (step : σ) (rest : List σ) (name : String) (content : β) :
    Latest writes (step :: rest) name content ↔ Latest writes rest name content ∨
      writes step = some (name, content) ∧ Silent writes rest name := by
  constructor
  · rintro ⟨before, last, after, cut, written, silent⟩
    cases before with
    | nil =>
        cases cut
        exact .inr ⟨written, silent⟩
    | cons first others =>
        cases cut
        exact .inl ⟨others, last, after, rfl, written, silent⟩
  · rintro (⟨before, last, after, rfl, written, silent⟩ | ⟨written, silent⟩)
    · exact ⟨step :: before, last, after, rfl, written, silent⟩
    · exact ⟨[], step, rest, rfl, written, silent⟩

theorem silent_cons_iff (step : σ) (rest : List σ) (name : String) :
    Silent writes (step :: rest) name ↔
      (∀ content, writes step ≠ some (name, content)) ∧ Silent writes rest name :=
  List.forall_mem_cons

variable (apply : τ → σ → τ) (view : τ → NameMap α) (make : β → α)

/-- A map that each step adds its entry to, or leaves alone, is told by the last entries. -/
theorem found_after_iff
    (written : ∀ state step, view (apply state step) = (writes step).elim (view state) fun entry =>
      (view state).insert entry.1 (make entry.2))
    (steps : List σ) (state : τ) (name : String) (value : α) :
    (view (steps.foldl apply state)).find? name = some value ↔
      (∃ content, Latest writes steps name content ∧ make content = value) ∨
        Silent writes steps name ∧ (view state).find? name = some value := by
  induction steps generalizing state with
  | nil => simp [latest_nil, Silent]
  | cons step rest ih =>
      rw [List.foldl_cons, ih, written]
      simp only [latest_cons_iff, silent_cons_iff]
      cases entry : writes step with
      | none => simp
      | some pair =>
          obtain ⟨other, made⟩ := pair
          rw [Option.elim_some, NameMap.find_insert]
          by_cases here : name = other
          · subst here
            simp [or_and_right, exists_or, and_assoc]
          · simp [here, Ne.symm here]

theorem found_iff_made
    (written : ∀ state step, view (apply state step) = (writes step).elim (view state) fun entry =>
      (view state).insert entry.1 (make entry.2))
    (start : τ) (empty : view start = .empty) (steps : List σ) (name : String) (value : α) :
    (view (steps.foldl apply start)).find? name = some value ↔
      ∃ content, Latest writes steps name content ∧ make content = value := by
  rw [found_after_iff writes apply view make written, empty, NameMap.find_empty]
  simp

end

theorem found_iff_latest {σ τ α : Type} (writes : σ → Option (String × α)) (apply : τ → σ → τ)
    (view : τ → NameMap α)
    (written : ∀ state step, view (apply state step) = (writes step).elim (view state) fun entry =>
      (view state).insert entry.1 entry.2)
    (start : τ) (empty : view start = .empty) (steps : List σ) (name : String) (value : α) :
    (view (steps.foldl apply start)).find? name = some value ↔ Latest writes steps name value := by
  rw [found_iff_made writes apply view (fun content => content) written start empty]
  simp

def Part.capability? : Part → Option (String × Capability)
  | .capability id type upperBound => some (id, { type, upperBound })
  | _ => none

def Part.requirement? : Part → Option (String × Requirement)
  | .requirement name type relationshipType => some (name, { type, relationshipType })
  | _ => none

def Part.relationship? : Part → Option (String × Relationship)
  | .relationship name type target requirementName offered =>
      some (name, { type, target, requirementName, targetedCapabilityName := some offered })
  | _ => none

def Step.name? : Step → Option String
  | .name label => some label
  | _ => none

def Step.dependency? : Step → Option Dependency
  | .dependency archive version => some { name := archive, version }
  | _ => none

def Step.nodeType? : Step → Option (String × NodeType)
  | .nodeType id => some (id, { elementId := id })
  | _ => none

def Step.capabilityType? : Step → Option (String × CapabilityType)
  | .capabilityType id parents => some (id, { elementId := id, derivedFrom := parents })
  | _ => none

def Step.relationshipType? : Step → Option (String × RelationshipType)
  | .relationshipType id validTargets => some (id, { elementId := id, validTargets })
  | _ => none

def Step.node? : Step → Option (String × String × List Part)
  | .node id type parts => some (id, type, parts)
  | _ => none

structure Assembled (type : String) (parts : List Part) (template : NodeTemplate) : Prop where
  type : template.type = type
  capabilities : ∀ id capability, template.capabilities.find? id = some capability ↔
    Latest Part.capability? parts id capability
  requirements : ∀ name requirement, template.requirements.find? name = some requirement ↔
    Latest Part.requirement? parts name requirement
  relationships : ∀ name relationship, template.relationships.find? name = some relationship ↔
    Latest Part.relationship? parts name relationship

theorem node_template_assembled (type : String) (parts : List Part) :
    Assembled type parts (nodeTemplate type parts) := by
  have typed (template : NodeTemplate) : (parts.foldl Part.add template).type = template.type := by
    induction parts generalizing template with
    | nil => rfl
    | cons part rest ih =>
        rw [List.foldl_cons, ih]
        cases part <;> rfl
  constructor
  · exact typed { type }
  · exact found_iff_latest Part.capability? Part.add NodeTemplate.capabilities
      (fun _ part => by cases part <;> rfl) { type } rfl parts
  · exact found_iff_latest Part.requirement? Part.add NodeTemplate.requirements
      (fun _ part => by cases part <;> rfl) { type } rfl parts
  · exact found_iff_latest Part.relationship? Part.add NodeTemplate.relationships
      (fun _ part => by cases part <;> rfl) { type } rfl parts

/-- The type and the parts leave no choice. -/
theorem assembled_iff (type : String) (parts : List Part) (template : NodeTemplate) :
    Assembled type parts template ↔ nodeTemplate type parts = template := by
  constructor
  · intro assembled
    have built := node_template_assembled type parts
    have capabilities : (nodeTemplate type parts).capabilities = template.capabilities :=
      NameMap.ext_find _ _ fun id => Option.ext fun capability =>
        (built.capabilities id capability).trans (assembled.capabilities id capability).symm
    have requirements : (nodeTemplate type parts).requirements = template.requirements :=
      NameMap.ext_find _ _ fun name => Option.ext fun requirement =>
        (built.requirements name requirement).trans (assembled.requirements name requirement).symm
    have relationships : (nodeTemplate type parts).relationships = template.relationships :=
      NameMap.ext_find _ _ fun name => Option.ext fun relationship =>
        (built.relationships name relationship).trans
          (assembled.relationships name relationship).symm
    have types := built.type.trans assembled.type.symm
    cases template
    generalize nodeTemplate type parts = made at *
    cases made
    simp_all
  · rintro rfl
    exact node_template_assembled type parts

structure Drafted (id : String) (steps : List Step) (topology : Topology) : Prop where
  identifier : topology.id = id
  name : topology.name = (steps.filterMap Step.name?).getLast?.getD id
  dependencies : topology.dependencies = steps.filterMap Step.dependency?
  nodeTypes : ∀ key type, topology.nodeTypes.find? key = some type ↔
    Latest Step.nodeType? steps key type
  capabilityTypes : ∀ key type, topology.capabilityTypes.find? key = some type ↔
    Latest Step.capabilityType? steps key type
  relationshipTypes : ∀ key type, topology.relationshipTypes.find? key = some type ↔
    Latest Step.relationshipType? steps key type
  nodeTemplates : ∀ key template, topology.nodeTemplates.find? key = some template ↔
    ∃ content, Latest Step.node? steps key content ∧ Assembled content.1 content.2 template

theorem applied_id (steps : List Step) (topology : Topology) :
    (steps.foldl Step.apply topology).id = topology.id := by
  induction steps generalizing topology with
  | nil => rfl
  | cons step rest ih =>
      rw [List.foldl_cons, ih]
      cases step <;> rfl

theorem applied_name (steps : List Step) (topology : Topology) :
    (steps.foldl Step.apply topology).name =
      (steps.filterMap Step.name?).getLast?.getD topology.name := by
  induction steps generalizing topology with
  | nil => rfl
  | cons step rest ih =>
      rw [List.foldl_cons, ih, List.filterMap_cons]
      cases step with
      | name label =>
          simp only [Step.name?, Step.apply, List.getLast?_cons, Option.getD_some]
      | _ => rfl

theorem applied_dependencies (steps : List Step) (topology : Topology) :
    (steps.foldl Step.apply topology).dependencies =
      topology.dependencies ++ steps.filterMap Step.dependency? := by
  induction steps generalizing topology with
  | nil => exact (List.append_nil _).symm
  | cons step rest ih =>
      rw [List.foldl_cons, ih, List.filterMap_cons]
      cases step with
      | dependency archive version =>
          simp only [Step.dependency?, Step.apply, List.append_assoc, List.singleton_append]
      | _ => rfl

theorem build_drafted (id : String) (steps : List Step) : Drafted id steps (build id steps) := by
  constructor
  · exact applied_id steps { id, name := id }
  · exact applied_name steps { id, name := id }
  · exact applied_dependencies steps { id, name := id }
  · exact found_iff_latest Step.nodeType? Step.apply Topology.nodeTypes
      (fun _ step => by cases step <;> rfl) { id, name := id } rfl steps
  · exact found_iff_latest Step.capabilityType? Step.apply Topology.capabilityTypes
      (fun _ step => by cases step <;> rfl) { id, name := id } rfl steps
  · exact found_iff_latest Step.relationshipType? Step.apply Topology.relationshipTypes
      (fun _ step => by cases step <;> rfl) { id, name := id } rfl steps
  · intro key template
    simp only [assembled_iff]
    exact found_iff_made Step.node? Step.apply Topology.nodeTemplates
      (fun content => nodeTemplate content.1 content.2)
      (fun _ step => by cases step <;> rfl) { id, name := id } rfl steps key template

structure Keyed (topology : Topology) : Prop where
  nodeTypes : ∀ key type, topology.nodeTypes.find? key = some type → type.elementId = key
  capabilityTypes : ∀ key type, topology.capabilityTypes.find? key = some type →
    type.elementId = key
  relationshipTypes : ∀ key type, topology.relationshipTypes.find? key = some type →
    type.elementId = key

theorem latest_written {σ α : Type} (writes : σ → Option (String × α)) (keyed : String → α → Prop)
    (holds : ∀ step name content, writes step = some (name, content) → keyed name content)
    (steps : List σ) (name : String) (content : α) (latest : Latest writes steps name content) :
    keyed name content := by
  obtain ⟨_, step, _, _, written, _⟩ := latest
  exact holds step name content written

theorem drafted_keyed (id : String) (steps : List Step) (topology : Topology)
    (drafted : Drafted id steps topology) : Keyed topology := by
  constructor
  · intro key type found
    refine latest_written _ (fun key type => type.elementId = key) ?_ steps key type
      ((drafted.nodeTypes key type).mp found)
    rintro (_ | _ | _ | _ | _ | _) _ _ ⟨⟩
    rfl
  · intro key type found
    refine latest_written _ (fun key type => type.elementId = key) ?_ steps key type
      ((drafted.capabilityTypes key type).mp found)
    rintro (_ | _ | _ | _ | _ | _) _ _ ⟨⟩
    rfl
  · intro key type found
    refine latest_written _ (fun key type => type.elementId = key) ?_ steps key type
      ((drafted.relationshipTypes key type).mp found)
    rintro (_ | _ | _ | _ | _ | _) _ _ ⟨⟩
    rfl

inductive Place where
  | name
  | dependencies
  | nodeType (id : String)
  | capabilityType (id : String)
  | relationshipType (id : String)
  | node (id : String)
  deriving DecidableEq, Repr

def Step.place : Step → Place
  | .name _ => .name
  | .dependency _ _ => .dependencies
  | .nodeType id => .nodeType id
  | .capabilityType id _ => .capabilityType id
  | .relationshipType id _ => .relationshipType id
  | .node id _ _ => .node id

theorem apply_comm (topology : Topology) (left right : Step) (apart : left.place ≠ right.place) :
    Step.apply (Step.apply topology left) right = Step.apply (Step.apply topology right) left := by
  cases left with
  | name label =>
      cases right with
      | name other => exact absurd rfl apart
      | _ => rfl
  | dependency archive version =>
      cases right with
      | dependency other next => exact absurd rfl apart
      | _ => rfl
  | nodeType id =>
      cases right with
      | nodeType other =>
          have different : id ≠ other := fun same => apart (congrArg Place.nodeType same)
          simp only [Step.apply, NameMap.insert_comm _ id other different]
      | _ => rfl
  | capabilityType id parents =>
      cases right with
      | capabilityType other others =>
          have different : id ≠ other := fun same => apart (congrArg Place.capabilityType same)
          simp only [Step.apply, NameMap.insert_comm _ id other different]
      | _ => rfl
  | relationshipType id validTargets =>
      cases right with
      | relationshipType other others =>
          have different : id ≠ other := fun same => apart (congrArg Place.relationshipType same)
          simp only [Step.apply, NameMap.insert_comm _ id other different]
      | _ => rfl
  | node id type parts =>
      cases right with
      | node other another others =>
          have different : id ≠ other := fun same => apart (congrArg Place.node same)
          simp only [Step.apply, NameMap.insert_comm _ id other different]
      | _ => rfl

theorem build_exchanged (id : String) (before after : List Step) (left right : Step)
    (apart : left.place ≠ right.place) :
    build id (before ++ right :: left :: after) = build id (before ++ left :: right :: after) := by
  rw [build, build, List.foldl_append, List.foldl_append, List.foldl_cons, List.foldl_cons,
    List.foldl_cons, List.foldl_cons, apply_comm _ left right apart]

/-- Where types stand under their own identifiers, a default type has the identifier that the
requirement names. -/
theorem keyed_default_type (topology : Topology) (keyed : Keyed topology) (scope : Scope)
    (id : String) (named : scope.requirement.relationshipType = some id) :
    ∃ type, (scope.query topology).resolve.relationshipType = some type ∧ type.elementId = id := by
  refine ⟨relationshipTypeOf topology.relationshipTypes id, ?_, ?_⟩
  · rw [(scope.query topology).resolve_type, Scope.query, named]
    rfl
  · unfold relationshipTypeOf
    cases found : topology.relationshipTypes.find? id with
    | none => rfl
    | some type => exact keyed.relationshipTypes id type found

/-- A draft read from its steps: what stands where, which steps can be exchanged, and which type a
requirement gets by default. -/
theorem built_as_drafted (id : String) (steps : List Step) :
    Drafted id steps (build id steps) ∧ Keyed (build id steps) ∧
    (∀ before left right after, steps = before ++ left :: right :: after →
      left.place ≠ right.place →
        build id (before ++ right :: left :: after) = build id steps) ∧
    ∀ (scope : Scope) (typeId : String), scope.requirement.relationshipType = some typeId →
      ∃ resolved type,
        Resolver.answer (scope.query (build id steps)) .inProcess = .resolved resolved ∧
          resolved.relationshipType = some type ∧ type.elementId = typeId := by
  have drafted := build_drafted id steps
  have keyed := drafted_keyed id steps _ drafted
  refine ⟨drafted, keyed, ?_, ?_⟩
  · rintro before left right after rfl apart
    exact build_exchanged id before after left right apart
  · intro scope typeId named
    obtain ⟨type, given, own⟩ := keyed_default_type _ keyed scope typeId named
    exact ⟨_, type, rfl, given, own⟩

def serverTwice : List Step := [
  .relationshipType "a.b.HostedOn" ["host"],
  .node "server" "vm" [.capability "slot" "host" none, .capability "slot" "host" (some 2)],
  .dependency "base" "1",
  .node "server" "pod" [.capability "port" "endpoint" none],
  .dependency "base" "2"]

def hosting : Scope where
  source := "app"
  requirementName := "host"
  requirement := { type := "host", relationshipType := some "a.b.HostedOn" }

theorem server_twice_drafted :
    Latest Step.node? serverTwice "server" ("pod", [.capability "port" "endpoint" none]) ∧
      (build "web" serverTwice).nodeTemplates.find? "server" =
        some (nodeTemplate "pod" [.capability "port" "endpoint" none]) ∧
      build "web" [
        .node "server" "vm" [.capability "slot" "host" none, .capability "slot" "host" (some 2)],
        .relationshipType "a.b.HostedOn" ["host"], .dependency "base" "1",
        .node "server" "pod" [.capability "port" "endpoint" none], .dependency "base" "2"] =
          build "web" serverTwice ∧
      ∃ resolved type,
        Resolver.answer (hosting.query (build "web" serverTwice)) .inProcess = .resolved resolved ∧
          resolved.relationshipType = some type ∧ type.elementId = "a.b.HostedOn" := by
  obtain ⟨drafted, _, exchanges, defaults⟩ := built_as_drafted "web" serverTwice
  have last : Latest Step.node? serverTwice "server"
      ("pod", [.capability "port" "endpoint" none]) := by
    refine ⟨serverTwice.take 3, .node "server" "pod" [.capability "port" "endpoint" none],
      [.dependency "base" "2"], rfl, rfl, ?_⟩
    intro step member content
    rw [List.mem_singleton.mp member]
    exact nofun
  refine ⟨last, ?_, ?_, defaults hosting "a.b.HostedOn" rfl⟩
  · exact (drafted.nodeTemplates "server" _).mpr ⟨_, last, node_template_assembled _ _⟩
  · exact exchanges [] _ _ _ rfl (by decide)

end Draft

end Wiring
