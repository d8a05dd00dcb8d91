import Wiring.Consistency
import Wiring.Proofs.Counting

/-!
The check of a topology finds nothing exactly if every relationship lands. More
relationships do not move the ground that the others land on.
-/

namespace Wiring

theorem dangling_none_iff (relationship : Relationship) (templates : NameMap NodeTemplate)
    (source name : String) :
    relationship.dangling? templates source name = none ↔ relationship.Lands templates := by
  unfold Relationship.dangling? Relationship.Lands
  cases templates.find? relationship.target with
  | none => simp
  | some target =>
      cases relationship.targetedCapabilityName with
      | none => simp
      | some capability => simp

theorem first_dangling_none_iff (topology : Topology) :
    topology.firstDangling? = none ↔ topology.Consistent := by
  simp only [Topology.firstDangling?, List.findSome?_eq_none_iff, dangling_none_iff]
  simp only [Topology.Consistent, NameMap.values, List.mem_map]
  constructor
  · rintro lands source ⟨⟨name, source⟩, member, rfl⟩ relationship ⟨⟨title, kept⟩, inside, rfl⟩
    exact lands (name, source) member (title, kept) inside
  · rintro lands ⟨name, source⟩ member ⟨title, relationship⟩ inside
    exact lands source ⟨(name, source), member, rfl⟩ relationship ⟨(title, relationship), inside, rfl⟩

/-- Landing depends only on the templates and on the capabilities that they have. -/
theorem lands_congr (relationship : Relationship) (templates others : NameMap NodeTemplate)
    (same : ∀ name, (others.find? name).map NodeTemplate.capabilities =
      (templates.find? name).map NodeTemplate.capabilities)
    (lands : relationship.Lands templates) : relationship.Lands others := by
  obtain ⟨target, found, offered⟩ := lands
  have kept := same relationship.target
  rw [found, Option.map_some, Option.map_eq_some_iff] at kept
  obtain ⟨other, foundOther, capabilities⟩ := kept
  exact ⟨other, foundOther, fun capability named => capabilities ▸ offered capability named⟩

theorem relate_capabilities (topology : Topology) (source name : String)
    (relationship : Relationship) (wanted : String) :
    ((topology.relate source name relationship).nodeTemplates.find? wanted).map
        NodeTemplate.capabilities =
      (topology.nodeTemplates.find? wanted).map NodeTemplate.capabilities := by
  cases found : topology.nodeTemplates.find? source with
  | none => simp only [Topology.relate, found]
  | some template =>
      rw [relate_templates topology source name relationship template found, NameMap.find_insert]
      by_cases here : wanted = source
      · simp [here, found, NodeTemplate.relate]
      · simp [here]

theorem relate_finds_none_iff (topology : Topology) (source name : String)
    (relationship : Relationship) (wanted : String) :
    (topology.relate source name relationship).nodeTemplates.find? wanted = none ↔
      topology.nodeTemplates.find? wanted = none := by
  have same := relate_capabilities topology source name relationship wanted
  rw [← Option.map_eq_none_iff (f := NodeTemplate.capabilities), same, Option.map_eq_none_iff]

/-- A relationship of the larger topology is the new one or was there before. -/
theorem relate_relationship (topology : Topology) (source name : String)
    (relationship : Relationship) (template : NodeTemplate)
    (found : topology.nodeTemplates.find? source = some template)
    (node title : String) (after : NodeTemplate) (kept : Relationship)
    (foundNode : (topology.relate source name relationship).nodeTemplates.find? node = some after)
    (foundKept : after.relationships.find? title = some kept) :
    node = source ∧ title = name ∧ kept = relationship ∨
      ∃ before, topology.nodeTemplates.find? node = some before ∧
        before.relationships.find? title = some kept := by
  rw [relate_templates topology source name relationship template found,
    NameMap.find_insert] at foundNode
  by_cases here : node = source
  · rw [if_pos here] at foundNode
    cases foundNode
    rw [NodeTemplate.relate, NameMap.find_insert] at foundKept
    by_cases same : title = name
    · rw [if_pos same] at foundKept
      cases foundKept
      exact Or.inl ⟨here, same, rfl⟩
    · rw [if_neg same] at foundKept
      exact Or.inr ⟨template, here ▸ found, foundKept⟩
  · rw [if_neg here] at foundNode
    exact Or.inr ⟨after, foundNode, foundKept⟩

theorem consistent_lands (topology : Topology) (consistent : topology.Consistent)
    (node title : String) (template : NodeTemplate) (relationship : Relationship)
    (foundNode : topology.nodeTemplates.find? node = some template)
    (found : template.relationships.find? title = some relationship) :
    relationship.Lands topology.nodeTemplates :=
  consistent template ((NameMap.mem_values_iff _ _).mpr ⟨node, foundNode⟩) relationship
    ((NameMap.mem_values_iff _ _).mpr ⟨title, found⟩)

theorem lands_related (topology : Topology) (source name : String)
    (relationship kept : Relationship) (lands : kept.Lands topology.nodeTemplates) :
    kept.Lands (topology.relate source name relationship).nodeTemplates :=
  lands_congr kept topology.nodeTemplates _
    (relate_capabilities topology source name relationship) lands

theorem relate_consistent (topology : Topology) (source name : String)
    (relationship : Relationship) (consistent : topology.Consistent)
    (lands : relationship.Lands topology.nodeTemplates) :
    (topology.relate source name relationship).Consistent := by
  cases found : topology.nodeTemplates.find? source with
  | none => simpa only [Topology.relate, found] using consistent
  | some template =>
      intro after afterMember kept keptMember
      obtain ⟨node, foundNode⟩ := (NameMap.mem_values_iff _ after).mp afterMember
      obtain ⟨title, foundKept⟩ := (NameMap.mem_values_iff _ kept).mp keptMember
      apply lands_related
      rcases relate_relationship topology source name relationship template found node title after
        kept foundNode foundKept with ⟨_, _, rfl⟩ | ⟨before, foundBefore, old⟩
      · exact lands
      · exact consistent_lands topology consistent node title before kept foundBefore old

theorem first_dangling_found (topology : Topology) (cause : Dangling)
    (first : topology.firstDangling? = some cause) :
    ∃ node template title relationship, topology.nodeTemplates.find? node = some template ∧
      template.relationships.find? title = some relationship ∧
      relationship.dangling? topology.nodeTemplates node title = some cause := by
  obtain ⟨⟨node, template⟩, nodeMember, inside⟩ := List.exists_of_findSome?_eq_some first
  obtain ⟨⟨title, relationship⟩, member, reports⟩ := List.exists_of_findSome?_eq_some inside
  exact ⟨node, template, title, relationship, (NameMap.mem_entries_iff _ _ _).mp nodeMember,
    (NameMap.mem_entries_iff _ _ _).mp member, reports⟩

-- All other relationships land where they did before, so the new one is the first to dangle.
theorem relate_first_dangling (topology : Topology) (source name : String)
    (relationship : Relationship) (template : NodeTemplate) (cause : Dangling)
    (consistent : topology.Consistent) (found : topology.nodeTemplates.find? source = some template)
    (dangling : relationship.dangling? (topology.relate source name relationship).nodeTemplates
      source name = some cause) :
    (topology.relate source name relationship).firstDangling? = some cause := by
  cases first : (topology.relate source name relationship).firstDangling? with
  | none =>
      have lands : relationship.Lands (topology.relate source name relationship).nodeTemplates := by
        refine consistent_lands _ ((first_dangling_none_iff _).mp first) source name
          (template.relate name relationship) relationship ?_ ?_
        · rw [relate_templates topology source name relationship template found,
            NameMap.find_insert, if_pos rfl]
        · rw [NodeTemplate.relate, NameMap.find_insert, if_pos rfl]
      rw [(dangling_none_iff _ _ _ _).mpr lands] at dangling
      cases dangling
  | some reported =>
      obtain ⟨node, after, title, kept, foundNode, foundKept, reports⟩ :=
        first_dangling_found _ reported first
      rcases relate_relationship topology source name relationship template found node title after
        kept foundNode foundKept with ⟨rfl, rfl, rfl⟩ | ⟨before, foundBefore, old⟩
      · exact reports.symm.trans dangling
      · have lands := consistent_lands topology consistent node title before kept foundBefore old
        have still := lands_related topology source name relationship kept lands
        rw [(dangling_none_iff _ _ _ _).mpr still] at reports
        cases reports

end Wiring
