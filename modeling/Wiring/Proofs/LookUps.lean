import Mathlib.Data.Set.Card
import Wiring.Proofs.Counting

/-!
What a topology says, told by look-ups in its maps and by nothing else: which
relationships lead to a capability or fulfil a requirement, which type a capability is
declared with, and which type an identifier means. The functions that count
relationships and look types up agree with it.
-/

namespace Wiring

/-- The relationships that lead to a capability, each told by its source and its name. -/
def leadingTo (templates : NameMap NodeTemplate) (template capability : String) :
    Set (String × String) :=
  {place | ∃ source relationship, templates.find? place.1 = some source ∧
    source.relationships.find? place.2 = some relationship ∧
    relationship.target = template ∧ relationship.targetedCapabilityName = some capability}

def NodeTemplate.fulfilling (template : NodeTemplate) (requirement : String) : Set String :=
  {name | ∃ relationship, template.relationships.find? name = some relationship ∧
    relationship.requirementName = requirement}

def Topology.Declares (topology : Topology) (template capability type : String) : Prop :=
  ∃ node offered, topology.nodeTemplates.find? template = some node ∧
    node.capabilities.find? capability = some offered ∧ offered.type = type

/-- What an identifier means, if there is one: the type known under it, or else a type that is nothing
but the identifier. -/
inductive TypeFor (types : NameMap RelationshipType) :
    Option String → Option RelationshipType → Prop where
  | absent : TypeFor types none none
  | known {id : String} {type : RelationshipType} (found : types.find? id = some type) :
      TypeFor types (some id) (some type)
  | unknown {id : String} (missing : types.find? id = none) :
      TypeFor types (some id) (some { elementId := id })

theorem type_for_iff (types : NameMap RelationshipType) (wanted : Option String)
    (type : Option RelationshipType) :
    TypeFor types wanted type ↔ type = wanted.map (relationshipTypeOf types) := by
  constructor
  · intro meant
    cases meant with
    | absent => rfl
    | known found => simp [relationshipTypeOf, found]
    | unknown missing => simp [relationshipTypeOf, missing]
  · rintro rfl
    cases wanted with
    | none => exact .absent
    | some id =>
        cases found : types.find? id with
        | none => simpa [relationshipTypeOf, found] using TypeFor.unknown found
        | some type => simpa [relationshipTypeOf, found] using TypeFor.known found

theorem declares_iff (topology : Topology) (template capability type : String) :
    topology.Declares template capability type ↔
      topology.capabilityType? template capability = some type := by
  unfold Topology.Declares Topology.capabilityType? NodeTemplate.capabilityType?
  cases topology.nodeTemplates.find? template with
  | none => simp
  | some node => simp [Option.map_eq_some_iff]

/-- Entries under distinct keys are as many as their keys. -/
theorem keys_encard (entries : List (κ × α)) (counted : α → Bool)
    (distinct : (entries.map Prod.fst).Nodup) :
    {key | ∃ value, (key, value) ∈ entries ∧ counted value = true}.encard =
      entries.countP fun entry => counted entry.2 := by
  classical
  let keys := (entries.filter fun entry => counted entry.2).map Prod.fst
  have listed : {key | ∃ value, (key, value) ∈ entries ∧ counted value = true} =
      (keys.toFinset : Set κ) := by
    ext key
    simp [keys]
  have once : keys.Nodup := distinct.sublist (List.filter_sublist.map Prod.fst)
  rw [listed, Set.encard_coe_eq_coe_finsetCard, List.toFinset_card_of_nodup once,
    List.length_map, ← List.countP_eq_length_filter]

def places (templates : NameMap NodeTemplate) : List ((String × String) × Relationship) :=
  templates.entries.flatMap fun node =>
    node.2.relationships.entries.map fun entry => ((node.1, entry.1), entry.2)

theorem mem_places_iff (templates : NameMap NodeTemplate) (place : String × String)
    (relationship : Relationship) :
    (place, relationship) ∈ places templates ↔ ∃ source,
      templates.find? place.1 = some source ∧
        source.relationships.find? place.2 = some relationship := by
  simp only [places, List.mem_flatMap, List.mem_map]
  constructor
  · rintro ⟨⟨name, source⟩, node, ⟨title, kept⟩, entry, same⟩
    cases same
    exact ⟨source, (NameMap.mem_entries_iff _ _ _).mp node, (NameMap.mem_entries_iff _ _ _).mp entry⟩
  · rintro ⟨source, node, entry⟩
    exact ⟨(place.1, source), (NameMap.mem_entries_iff _ _ _).mpr node, (place.2, relationship),
      (NameMap.mem_entries_iff _ _ _).mpr entry, rfl⟩

theorem places_nodup (templates : NameMap NodeTemplate) :
    ((places templates).map Prod.fst).Nodup := by
  have pairs : (places templates).map Prod.fst = templates.entries.flatMap fun node =>
      node.2.relationships.names.map fun name => (node.1, name) := by
    simp only [places, List.map_flatMap, NameMap.names, List.map_map, Function.comp_def]
  rw [pairs]
  exact templates.nested_names_nodup NodeTemplate.relationships

theorem leading_to_encard (templates : NameMap NodeTemplate) (template capability : String) :
    (leadingTo templates template capability).encard =
      incomingCount templates template capability := by
  have counted : incomingCount templates template capability =
      (places templates).countP fun entry => entry.2.targets template capability := by
    rw [incomingCount, places, NameMap.values, List.flatMap_map, List.countP_flatMap,
      List.countP_flatMap]
    refine congrArg List.sum (List.map_congr_left fun node _ => ?_)
    simp only [NameMap.values, Function.comp_def, List.countP_map]
  rw [counted, ← keys_encard (places templates)
    (fun relationship => relationship.targets template capability) (places_nodup templates)]
  refine congrArg Set.encard (Set.ext fun place => ?_)
  simp only [leadingTo, Set.mem_ofPred_eq, mem_places_iff, targets_iff]
  constructor
  · rintro ⟨source, relationship, node, entry, leads⟩
    exact ⟨relationship, ⟨source, node, entry⟩, leads⟩
  · rintro ⟨relationship, ⟨source, node, entry⟩, leads⟩
    exact ⟨source, relationship, node, entry, leads⟩

theorem leading_to_lt_iff (templates : NameMap NodeTemplate) (template capability : String)
    (bound : Nat) :
    (leadingTo templates template capability).encard < bound ↔
      incomingCount templates template capability < bound := by
  rw [leading_to_encard, Nat.cast_lt]

theorem fulfilling_encard (template : NodeTemplate) (requirement : String) :
    (template.fulfilling requirement).encard = template.fulfilmentCount requirement := by
  have counted : template.fulfilmentCount requirement =
      template.relationships.entries.countP fun entry =>
        entry.2.requirementName == requirement := by
    rw [NodeTemplate.fulfilmentCount, NameMap.values, List.countP_map]
    rfl
  rw [counted, ← keys_encard template.relationships.entries
    (fun relationship => relationship.requirementName == requirement)
    template.relationships.names_nodup]
  refine congrArg Set.encard (Set.ext fun name => ?_)
  simp only [NodeTemplate.fulfilling, Set.mem_ofPred_eq, NameMap.mem_entries_iff, beq_iff_eq]

theorem le_fulfilling_iff (template : NodeTemplate) (requirement : String) (bound : Nat) :
    bound ≤ (template.fulfilling requirement).encard ↔
      bound ≤ template.fulfilmentCount requirement := by
  rw [fulfilling_encard, Nat.cast_le]

end Wiring
