import Mathlib.Logic.Relation
import Wiring.Proofs.Landing
import Wiring.Proofs.Matching

/-!
Bounds hold whatever is made of what the resolver offers. A topology is sound if
its check finds nothing and no capability or requirement has more relationships
than its bound; one more relationship between a requirement and a capability that
were offered together, under a fresh name or a used one, leaves it sound.
-/

namespace Wiring

structure Topology.Sound (topology : Topology) : Prop where
  accepted : topology.firstDangling? = none
  capabilities : ∀ name template, topology.nodeTemplates.find? name = some template →
    ∀ id capability, template.capabilities.find? id = some capability →
      ∀ bound ∈ capability.upperBound,
        incomingCount topology.nodeTemplates name id ≤ bound.toNat
  requirements : ∀ name template, topology.nodeTemplates.find? name = some template →
    ∀ title requirement, template.requirements.find? title = some requirement →
      ∀ bound ∈ requirement.upperBound, template.fulfilmentCount title ≤ bound.toNat

def within (bound : Option UInt64) (count : Nat) : Bool :=
  bound.all fun limit => decide (count ≤ limit.toNat)

theorem within_iff (bound : Option UInt64) (count : Nat) :
    within bound count = true ↔ ∀ limit ∈ bound, count ≤ limit.toNat := by
  simp only [within, Option.all_eq_true, decide_eq_true_eq, Option.mem_def]

theorem sound_iff (topology : Topology) :
    topology.Sound ↔ topology.firstDangling? = none ∧
      (∀ node ∈ topology.nodeTemplates.entries, ∀ offered ∈ node.2.capabilities.entries,
        within offered.2.upperBound (incomingCount topology.nodeTemplates node.1 offered.1)) ∧
      ∀ node ∈ topology.nodeTemplates.entries, ∀ needed ∈ node.2.requirements.entries,
        within needed.2.upperBound (node.2.fulfilmentCount needed.1) := by
  simp only [within_iff]
  constructor
  · rintro ⟨accepted, capabilities, requirements⟩
    refine ⟨accepted, ?_, ?_⟩
    · rintro ⟨name, template⟩ node ⟨id, capability⟩ offered
      exact capabilities name template ((NameMap.mem_entries_iff _ _ _).mp node) id capability
        ((NameMap.mem_entries_iff _ _ _).mp offered)
    · rintro ⟨name, template⟩ node ⟨title, requirement⟩ needed
      exact requirements name template ((NameMap.mem_entries_iff _ _ _).mp node) title requirement
        ((NameMap.mem_entries_iff _ _ _).mp needed)
  · rintro ⟨accepted, capabilities, requirements⟩
    refine ⟨accepted, ?_, ?_⟩
    · intro name template node id capability offered
      exact capabilities (name, template) ((NameMap.mem_entries_iff _ _ _).mpr node)
        (id, capability) ((NameMap.mem_entries_iff _ _ _).mpr offered)
    · intro name template node title requirement needed
      exact requirements (name, template) ((NameMap.mem_entries_iff _ _ _).mpr node)
        (title, requirement) ((NameMap.mem_entries_iff _ _ _).mpr needed)

instance (topology : Topology) : Decidable topology.Sound :=
  decidable_of_iff' _ (sound_iff topology)

def Relationship.FindsRoom (relationship : Relationship) (templates : NameMap NodeTemplate) : Prop :=
  ∀ target, templates.find? relationship.target = some target →
    ∀ id, relationship.targetedCapabilityName = some id →
      ∀ capability, target.capabilities.find? id = some capability →
        ∀ bound ∈ capability.upperBound,
          incomingCount templates relationship.target id < bound.toNat

def Relationship.IsWanted (relationship : Relationship) (source : NodeTemplate) : Prop :=
  ∀ requirement, source.requirements.find? relationship.requirementName = some requirement →
    ∀ bound ∈ requirement.upperBound,
      source.fulfilmentCount relationship.requirementName < bound.toNat

theorem relate_find (topology : Topology) (source name : String) (relationship : Relationship)
    (template : NodeTemplate) (found : topology.nodeTemplates.find? source = some template)
    (wanted : String) (after : NodeTemplate)
    (foundAfter : (topology.relate source name relationship).nodeTemplates.find? wanted =
      some after) :
    ∃ before, topology.nodeTemplates.find? wanted = some before ∧
      after.capabilities = before.capabilities ∧ after.requirements = before.requirements ∧
      (after = before ∨ wanted = source ∧ before = template ∧
        after = template.relate name relationship) := by
  rw [relate_templates topology source name relationship template found,
    NameMap.find_insert] at foundAfter
  split at foundAfter
  · rename_i here
    cases foundAfter
    exact ⟨template, here ▸ found, rfl, rfl, Or.inr ⟨here, rfl, rfl⟩⟩
  · exact ⟨after, foundAfter, rfl, rfl, Or.inl rfl⟩

theorem relate_incoming_bounded (topology : Topology) (sound : topology.Sound)
    (source name : String) (relationship : Relationship) (template : NodeTemplate)
    (found : topology.nodeTemplates.find? source = some template)
    (room : relationship.FindsRoom topology.nodeTemplates) (node : String) (before : NodeTemplate)
    (foundBefore : topology.nodeTemplates.find? node = some before) (id : String)
    (capability : Capability) (offered : before.capabilities.find? id = some capability)
    (bound : UInt64) (bounded : bound ∈ capability.upperBound) :
    incomingCount (topology.relate source name relationship).nodeTemplates node id ≤
      bound.toNat := by
  have old := sound.capabilities node before foundBefore id capability offered bound bounded
  have counted := incoming_count_relate topology source name relationship template found node id
  -- Only the capability that the relationship targets gains one, and it had room.
  by_cases here : relationship.targets node id = true
  · obtain ⟨rfl, targeted⟩ := (targets_iff relationship node id).mp here
    have free := room before foundBefore id targeted capability offered bound bounded
    simp only [here, Bool.toNat_true] at counted
    omega
  · simp only [Bool.not_eq_true] at here
    simp only [here, Bool.toNat_false] at counted
    omega

theorem relate_fulfilment_bounded (template : NodeTemplate) (name : String)
    (relationship : Relationship) (wanted : relationship.IsWanted template) (title : String)
    (requirement : Requirement) (needed : template.requirements.find? title = some requirement)
    (bound : UInt64) (bounded : bound ∈ requirement.upperBound)
    (old : template.fulfilmentCount title ≤ bound.toNat) :
    (template.relate name relationship).fulfilmentCount title ≤ bound.toNat := by
  have counted := fulfilment_count_relate template name relationship title
  by_cases here : relationship.requirementName = title
  · subst here
    have free := wanted requirement needed bound bounded
    simp only [beq_self_eq_true, Bool.toNat_true] at counted
    omega
  · simp only [beq_false_of_ne here, Bool.toNat_false] at counted
    omega

theorem relate_sound (topology : Topology) (sound : topology.Sound) (source name : String)
    (relationship : Relationship) (template : NodeTemplate)
    (found : topology.nodeTemplates.find? source = some template)
    (lands : relationship.Lands topology.nodeTemplates)
    (room : relationship.FindsRoom topology.nodeTemplates) (wanted : relationship.IsWanted template) :
    (topology.relate source name relationship).Sound := by
  have consistent := (first_dangling_none_iff topology).mp sound.accepted
  refine ⟨(first_dangling_none_iff _).mpr
    (relate_consistent topology source name relationship consistent lands), ?_, ?_⟩
  · intro node after nodeFound id capability offered bound bounded
    obtain ⟨before, foundBefore, capabilities, _, _⟩ :=
      relate_find topology source name relationship template found node after nodeFound
    rw [capabilities] at offered
    exact relate_incoming_bounded topology sound source name relationship template found room node
      before foundBefore id capability offered bound bounded
  · intro node after nodeFound title requirement needed bound bounded
    obtain ⟨before, foundBefore, _, requirements, change⟩ :=
      relate_find topology source name relationship template found node after nodeFound
    rw [requirements] at needed
    have old := sound.requirements node before foundBefore title requirement needed bound bounded
    rcases change with rfl | ⟨_, rfl, rfl⟩
    · exact old
    · exact relate_fulfilment_bounded before name relationship wanted title requirement needed bound
        bounded old

/-- The resolver offers a capability of a template for a requirement. -/
def Topology.Offers (topology : Topology) (scope : Scope) (template capability : String) : Prop :=
  ∃ resolved, Resolver.answer (scope.query topology) .inProcess = .resolved resolved ∧
    ∃ target ∈ resolved.targets, target.template.name = template ∧
      ∃ matched ∈ target.capabilities, matched.id = capability

theorem offers_iff (topology : Topology) (scope : Scope) (template capability : String) :
    topology.Offers scope template capability ↔
      ∃ target ∈ (scope.query topology).resolve.targets, target.template.name = template ∧
        ∃ matched ∈ target.capabilities, matched.id = capability := by
  constructor
  · rintro ⟨resolved, answered, offered⟩
    cases answered
    exact offered
  · intro offered
    exact ⟨_, rfl, offered⟩

def Relationship.fulfilling (requirement type template capability : String) : Relationship where
  type := type
  target := template
  requirementName := requirement
  targetedCapabilityName := some capability

/-- What the resolver offers is there, and there is room on both sides. -/
theorem offered_fits (topology : Topology) (scope : Scope) (source : NodeTemplate)
    (template capability type : String)
    (found : topology.nodeTemplates.find? scope.source = some source)
    (needed : source.requirements.find? scope.requirementName = some scope.requirement)
    (offered : topology.Offers scope template capability) :
    let relationship := Relationship.fulfilling scope.requirementName type template capability
    relationship.Lands topology.nodeTemplates ∧ relationship.FindsRoom topology.nodeTemplates ∧
      relationship.IsWanted source := by
  obtain ⟨target, member, rfl, matched, inside, rfl⟩ := (offers_iff _ _ _ _).mp offered
  obtain ⟨free, offers⟩ := (scope.query topology).resolve_offers target member
  obtain ⟨node, foundNode, members⟩ := offers.exactly
  obtain ⟨entry, foundEntry, _, _, room⟩ := (members matched).mp inside
  refine ⟨⟨node, foundNode, ?_⟩, ?_, ?_⟩
  · rintro _ ⟨rfl⟩
    simp [NameMap.contains, foundEntry]
  · rintro other foundOther _ ⟨rfl⟩ another foundAnother bound bounded
    cases Option.some.inj (foundNode.symm.trans foundOther)
    cases Option.some.inj (foundEntry.symm.trans foundAnother)
    exact (leading_to_lt_iff _ _ _ _).mp (room bound bounded)
  · intro requirement foundRequirement bound bounded
    cases Option.some.inj (needed.symm.trans foundRequirement)
    refine Nat.lt_of_not_le fun full => free ⟨bound, source, bounded, found, ?_⟩
    exact (le_fulfilling_iff _ _ _).mpr full

inductive Topology.Related (topology : Topology) : Topology → Prop where
  | intro (source requirement name type template capability : String) (scope : Scope)
      (hint : Option String) (accepted : Scope.ofRequirement topology source requirement = .ok scope)
      (offered : topology.Offers { scope with preselected := hint } template capability) :
      topology.Related (topology.relate source name
        (.fulfilling requirement type template capability))

theorem related_sound (topology grown : Topology) (sound : topology.Sound)
    (related : topology.Related grown) : grown.Sound := by
  obtain ⟨source, requirement, name, type, template, capability, scope, hint, accepted, offered⟩ :=
    related
  obtain ⟨node, needed, found, foundNeeded, rfl⟩ :=
    (scope_of_requirement_iff topology source requirement scope).mp accepted
  obtain ⟨lands, room, wanted⟩ :=
    offered_fits topology _ node template capability type found foundNeeded offered
  exact relate_sound topology sound source name _ node found lands room wanted

/-- No history of relationships made as offered exceeds a bound or leaves one that leads nowhere. -/
theorem offered_relationships_keep_bounds (topology : Topology) (sound : topology.Sound) :
    (∀ grown, topology.Related grown → grown.Sound) ∧
      ∀ grown, Relation.ReflTransGen Topology.Related topology grown → grown.Sound := by
  refine ⟨fun grown related => related_sound topology grown sound related, ?_⟩
  intro grown history
  induction history with
  | refl => exact sound
  | tail _ related ih => exact related_sound _ _ ih related

def shop : Topology where
  id := "shop"
  nodeTemplates := .ofList [
    ("app", {
      type := "war"
      requirements := .ofList [("database", { type := "endpoint", upperBound := some 2 })]
      relationships := .ofList [("first", .fulfilling "database" "connects" "store" "rows")] }),
    ("store", {
      type := "server"
      capabilities := .ofList [("rows", { type := "endpoint", upperBound := some 2 })] })]

theorem shop_related :
    shop.Related (shop.relate "app" "second" (.fulfilling "database" "connects" "store" "rows")) := by
  refine .intro "app" "database" "second" "connects" "store" "rows" _ none
    ((scope_of_requirement_iff _ _ _ _).mpr ⟨_, _, rfl, rfl, rfl⟩) ⟨_, rfl, ?_⟩
  exact ⟨⟨⟨"store"⟩, [⟨"rows", "endpoint"⟩]⟩, by decide, rfl, ⟨"rows", "endpoint"⟩, by decide, rfl⟩

theorem shop_fills_up : shop.Sound ∧
    (shop.relate "app" "second" (.fulfilling "database" "connects" "store" "rows")).Sound :=
  ⟨by decide, (offered_relationships_keep_bounds shop (by decide)).1 _ shop_related⟩

end Wiring
