import Mathlib.Algebra.GroupWithZero.Nat
import Mathlib.Data.List.Nodup
import Wiring.Topology

/-!
Sums over the values of a map, and the two ways in which relationships are
counted, when one entry is written: the new value comes in and what stood under
the name goes out.
-/

namespace Wiring

theorem sum_insert_entry (weight : α → Nat) (name : String) (value : α)
    (entries : List (String × α)) (ordered : InNameOrder entries) :
    ((insertEntry name value entries).map fun entry => weight entry.2).sum +
        (entries.lookup name).elim 0 weight =
      (entries.map fun entry => weight entry.2).sum + weight value := by
  induction entries with
  | nil => simp [insertEntry]
  | cons first rest ih =>
      obtain ⟨other, kept⟩ := first
      obtain ⟨below, tail⟩ := List.pairwise_cons.mp ordered
      simp only [insertEntry]
      split
      · rename_i before
        have absent : List.lookup name ((other, kept) :: rest) = none := by
          refine lookup_below name _ fun entry member => ?_
          rcases List.mem_cons.mp member with same | later
          · exact same ▸ before
          · exact String.lt_trans before (below entry later)
        simp only [absent, List.map_cons, List.sum_cons, Option.elim_none]
        omega
      · split
        · rename_i same
          subst same
          simp only [List.lookup_cons_self, List.map_cons, List.sum_cons, Option.elim_some]
          omega
        · rename_i different
          have deeper := ih tail
          simp only [List.lookup_cons, beq_false_of_ne different, List.map_cons, List.sum_cons]
          omega

theorem count_as_sum (counted : α → Bool) (values : List α) :
    values.countP counted = (values.map fun value => (counted value).toNat).sum := by
  induction values with
  | nil => rfl
  | cons first rest ih =>
      rw [List.countP_cons, ih, List.map_cons, List.sum_cons]
      cases counted first <;> simp [Nat.add_comm]

namespace NameMap

theorem sum_insert (weight : α → Nat) (map : NameMap α) (name : String) (value : α) :
    ((map.insert name value).values.map weight).sum + (map.find? name).elim 0 weight =
      (map.values.map weight).sum + weight value := by
  rw [values, values, List.map_map, List.map_map]
  exact sum_insert_entry weight name value map.entries map.ordered

theorem count_insert (counted : α → Bool) (map : NameMap α) (name : String) (value : α) :
    (map.insert name value).values.countP counted +
        (map.find? name).elim 0 (fun kept => (counted kept).toNat) =
      map.values.countP counted + (counted value).toNat := by
  rw [count_as_sum, count_as_sum]
  exact sum_insert _ map name value

theorem mem_values_iff (map : NameMap α) (value : α) :
    value ∈ map.values ↔ ∃ name, map.find? name = some value := by
  rw [values, List.mem_map]
  constructor
  · rintro ⟨⟨name, value⟩, member, rfl⟩
    exact ⟨name, (map.mem_entries_iff name value).mp member⟩
  · rintro ⟨name, found⟩
    exact ⟨(name, value), (map.mem_entries_iff name value).mpr found, rfl⟩

theorem names_nodup (map : NameMap α) : map.names.Nodup := by
  refine List.pairwise_map.mpr (map.ordered.imp ?_)
  intro left right below same
  rw [same] at below
  exact String.lt_irrefl _ below

theorem mem_names_iff (map : NameMap α) (name : String) :
    name ∈ map.names ↔ map.contains name = true := by
  rw [names, List.mem_map, contains, Option.isSome_iff_exists]
  constructor
  · rintro ⟨⟨name, value⟩, member, rfl⟩
    exact ⟨value, (map.mem_entries_iff name value).mp member⟩
  · rintro ⟨value, found⟩
    exact ⟨(name, value), (map.mem_entries_iff name value).mpr found, rfl⟩

/-- Names in the maps that a map holds are told apart by the name that each map stands under. -/
theorem nested_names_nodup (map : NameMap α) (inner : α → NameMap β) :
    (map.entries.flatMap fun entry =>
      (inner entry.2).names.map fun name => (entry.1, name)).Nodup := by
  refine List.nodup_flatMap.mpr ⟨?_, ?_⟩
  · intro entry _
    exact (inner entry.2).names_nodup.map fun _ _ same => (Prod.mk.inj same).2
  · refine map.ordered.imp fun below => ?_
    rintro ⟨outer, name⟩ left right
    obtain ⟨_, _, ⟨rfl, _⟩⟩ := List.mem_map.mp left
    obtain ⟨_, _, same⟩ := List.mem_map.mp right
    exact String.lt_irrefl _ ((Prod.mk.inj same).1 ▸ below)

end NameMap

theorem targets_iff (relationship : Relationship) (template capability : String) :
    relationship.targets template capability = true ↔
      relationship.target = template ∧ relationship.targetedCapabilityName = some capability := by
  simp [Relationship.targets]

theorem incoming_count_sum (templates : NameMap NodeTemplate) (target capability : String) :
    incomingCount templates target capability =
      (templates.values.map fun source =>
        source.relationships.values.countP fun relationship =>
          relationship.targets target capability).sum := by
  rw [incomingCount, List.countP_flatMap]
  rfl

theorem relate_templates (topology : Topology) (source name : String)
    (relationship : Relationship) (template : NodeTemplate)
    (found : topology.nodeTemplates.find? source = some template) :
    (topology.relate source name relationship).nodeTemplates =
      topology.nodeTemplates.insert source (template.relate name relationship) := by
  simp only [Topology.relate, found]

theorem incoming_count_relate (topology : Topology) (source name : String)
    (relationship : Relationship) (template : NodeTemplate)
    (found : topology.nodeTemplates.find? source = some template) (target capability : String) :
    incomingCount (topology.relate source name relationship).nodeTemplates target capability +
        (template.relationships.find? name).elim 0
          (fun kept => (kept.targets target capability).toNat) =
      incomingCount topology.nodeTemplates target capability +
        (relationship.targets target capability).toNat := by
  rw [relate_templates topology source name relationship template found, incoming_count_sum,
    incoming_count_sum]
  have outer := NameMap.sum_insert (fun source => source.relationships.values.countP
    fun relationship => relationship.targets target capability) topology.nodeTemplates source
    (template.relate name relationship)
  have inner := NameMap.count_insert (fun relationship => relationship.targets target capability)
    template.relationships name relationship
  simp only [found, Option.elim_some, NodeTemplate.relate] at outer
  simp only [NodeTemplate.relate]
  omega

theorem fulfilment_count_relate (template : NodeTemplate) (name : String)
    (relationship : Relationship) (requirement : String) :
    (template.relate name relationship).fulfilmentCount requirement +
        (template.relationships.find? name).elim 0
          (fun kept => (kept.requirementName == requirement).toNat) =
      template.fulfilmentCount requirement +
        (relationship.requirementName == requirement).toNat :=
  NameMap.count_insert (fun kept : Relationship => kept.requirementName == requirement)
    template.relationships name relationship

end Wiring
