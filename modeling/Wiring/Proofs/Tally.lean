import Mathlib.Algebra.BigOperators.Group.List.Lemmas
import Wiring.Proofs.Landing

/-!
No relationship is lost and none is counted twice. In a topology that passes its check,
what the capabilities of all templates have coming in adds up to the relationships that
name a capability; and what a template does for each of its requirements adds up to all
the relationships that leave it.
-/

namespace Wiring

/-- Distinct keys, of which some occur in a list and no others do, occur there as often as the list
is long. -/
theorem sum_counts [BEq α] [LawfulBEq α] (keys occurring : List α) (distinct : keys.Nodup)
    (listed : ∀ key ∈ occurring, key ∈ keys) :
    (keys.map occurring.count).sum = occurring.length := by
  induction occurring with
  | nil => simp
  | cons first rest ih =>
      have others := ih fun key member => listed key (List.mem_cons_of_mem first member)
      -- The first one is counted under its own key, which is there once.
      have once : (keys.map fun key => if first == key then 1 else 0).sum = 1 := by
        have occurs := List.count_eq_one_of_mem distinct (listed first List.mem_cons_self)
        rw [List.count, count_as_sum] at occurs
        refine Eq.trans (congrArg List.sum (List.map_congr_left fun key _ => ?_)) occurs
        by_cases same : first = key
        · simp [same]
        · simp [beq_false_of_ne same, beq_false_of_ne (Ne.symm same)]
      simp only [List.count_cons, List.sum_map_add, others, once, List.length_cons]

def Topology.relationships (topology : Topology) : List Relationship :=
  topology.nodeTemplates.values.flatMap fun source => source.relationships.values

def Topology.declared (topology : Topology) : List (String × String) :=
  topology.nodeTemplates.entries.flatMap fun node =>
    node.2.capabilities.names.map fun id => (node.1, id)

def Relationship.targeted? (relationship : Relationship) : Option (String × String) :=
  relationship.targetedCapabilityName.map fun id => (relationship.target, id)

def NodeTemplate.fulfilled (template : NodeTemplate) : List String :=
  (template.relationships.values.map Relationship.requirementName).dedup

theorem declared_nodup (topology : Topology) : topology.declared.Nodup :=
  topology.nodeTemplates.nested_names_nodup NodeTemplate.capabilities

theorem targeted_declared (topology : Topology) (consistent : topology.Consistent) :
    ∀ pair ∈ topology.relationships.filterMap Relationship.targeted?, pair ∈ topology.declared := by
  intro pair member
  obtain ⟨relationship, inside, targeted⟩ := List.mem_filterMap.mp member
  obtain ⟨source, sourceMember, leaving⟩ := List.mem_flatMap.mp inside
  obtain ⟨id, named, rfl⟩ := Option.map_eq_some_iff.mp targeted
  obtain ⟨target, found, offered⟩ := consistent source sourceMember relationship leaving
  refine List.mem_flatMap.mpr ⟨(relationship.target, target), ?_, ?_⟩
  · exact (NameMap.mem_entries_iff _ _ _).mpr found
  · exact List.mem_map_of_mem ((NameMap.mem_names_iff _ _).mpr (offered id named))

theorem incoming_count_targeted (topology : Topology) (template id : String) :
    incomingCount topology.nodeTemplates template id =
      (topology.relationships.filterMap Relationship.targeted?).count (template, id) := by
  rw [List.count, List.countP_filterMap]
  refine List.countP_congr fun relationship _ => ?_
  cases named : relationship.targetedCapabilityName <;>
    simp [Relationship.targets, Relationship.targeted?, named]

theorem sum_declared (topology : Topology) (weight : String → String → Nat) :
    (topology.nodeTemplates.entries.map fun node =>
        (node.2.capabilities.names.map (weight node.1)).sum).sum =
      (topology.declared.map fun pair => weight pair.1 pair.2).sum := by
  rw [Topology.declared, List.map_flatMap, List.flatMap_def, List.sum_flatten, List.map_map]
  simp only [List.map_map, Function.comp_def]

/-- Every relationship that names a capability comes in at one of them, and every one that leaves a
template fulfils one requirement. -/
theorem relationships_counted_once (topology : Topology)
    (accepted : topology.firstDangling? = none) :
    (topology.nodeTemplates.entries.map fun node =>
        (node.2.capabilities.names.map (incomingCount topology.nodeTemplates node.1)).sum).sum =
      topology.relationships.countP (fun relationship =>
        relationship.targetedCapabilityName.isSome) ∧
    ∀ template ∈ topology.nodeTemplates.values,
      (template.fulfilled.map template.fulfilmentCount).sum =
        template.relationships.values.length := by
  have consistent := (first_dangling_none_iff topology).mp accepted
  constructor
  · have counted : ∀ pair ∈ topology.declared,
        incomingCount topology.nodeTemplates pair.1 pair.2 =
          (topology.relationships.filterMap Relationship.targeted?).count pair :=
      fun pair _ => incoming_count_targeted topology pair.1 pair.2
    rw [sum_declared, List.map_congr_left counted,
      sum_counts _ _ (declared_nodup topology) (targeted_declared topology consistent),
      List.length_filterMap_eq_countP]
    simp only [Relationship.targeted?, Option.isSome_map]
  · intro template _
    have counted : template.fulfilmentCount =
        (template.relationships.values.map Relationship.requirementName).count := by
      funext requirement
      rw [List.count, List.countP_map]
      rfl
    rw [counted, NodeTemplate.fulfilled,
      sum_counts _ _ (List.nodup_dedup _) fun _ => List.mem_dedup.mpr, List.length_map]

def mesh : Topology where
  id := "mesh"
  nodeTemplates := .ofList [
    ("app", {
      type := "war"
      capabilities := .ofList [("port", { type := "endpoint" })]
      relationships := .ofList [
        ("reads", {
          type := "connects", target := "store", requirementName := "database"
          targetedCapabilityName := some "rows" }),
        ("runs", { type := "hosted", target := "store", requirementName := "host" }),
        ("writes", {
          type := "connects", target := "store", requirementName := "database"
          targetedCapabilityName := some "rows" })] }),
    ("store", {
      type := "server"
      capabilities := .ofList [("files", { type := "disk" }), ("rows", { type := "endpoint" })]
      relationships := .ofList [
        ("calls", {
          type := "connects", target := "app", requirementName := "listener"
          targetedCapabilityName := some "port" })] })]

theorem mesh_counted_once :
    mesh.firstDangling? = none ∧
      (mesh.nodeTemplates.entries.map fun node =>
        (node.2.capabilities.names.map (incomingCount mesh.nodeTemplates node.1)).sum).sum = 3 ∧
      ∀ template ∈ mesh.nodeTemplates.values,
        (template.fulfilled.map template.fulfilmentCount).sum =
          template.relationships.values.length := by
  have accepted : mesh.firstDangling? = none := by decide
  obtain ⟨incoming, fulfilled⟩ := relationships_counted_once mesh accepted
  exact ⟨accepted, incoming.trans (by decide), fulfilled⟩

end Wiring
