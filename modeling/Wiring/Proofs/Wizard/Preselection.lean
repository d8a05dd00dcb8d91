import Wiring.Proofs.Capacity
import Wiring.Proofs.Wizard.Filtering

/-!
What the in-process resolver makes a wizard choose by itself: the template that its
author had in mind, if just one capability of it is offered. The topology has what
the resolver offers, so this choice is never refused.
-/

namespace Wiring

/-- The resolver offers this capability of a template, and no other one of it. -/
def Topology.OffersOnly (topology : Topology) (scope : Scope) (template capability : String) :
    Prop :=
  ∀ other, topology.Offers scope template other ↔ other = capability

theorem offers_by_rules (topology : Topology) (scope : Scope) (name id : String) :
    topology.Offers scope name id ↔ ¬ (scope.query topology).Saturated ∧ name ≠ scope.source ∧
      (scope.query topology).EligibleOn name id := by
  let query := scope.query topology
  rw [offers_iff]
  constructor
  · rintro ⟨target, member, rfl, matched, inside, rfl⟩
    obtain ⟨free, offers⟩ := query.resolve_offers target member
    obtain ⟨template, found, members⟩ := offers.exactly
    obtain ⟨capability, kept, _, eligible⟩ := (members matched).mp inside
    exact ⟨free, offers.other, template, capability, found, kept, eligible⟩
  · rintro ⟨free, other, template, capability, found, kept, eligible⟩
    let capabilities := query.eligibleCapabilities name template
    have inside : ⟨id, capability.type⟩ ∈ capabilities :=
      (query.mem_eligible_capabilities_iff name template _).mpr ⟨capability, kept, rfl, eligible⟩
    have offers : query.Offers { template := ⟨name⟩, capabilities } := by
      constructor
      · exact other
      · exact List.ne_nil_of_mem inside
      · exact query.eligible_capabilities_ordered name template
      · exact ⟨template, found, query.mem_eligible_capabilities_iff name template⟩
    exact ⟨_, (query.resolve_answers.offered free _).mpr offers, rfl, _, inside, rfl⟩

theorem offers_only_iff (topology : Topology) (scope : Scope) (template capability : String) :
    topology.OffersOnly scope template capability ↔
      (scope.query topology).OnlyThrough template capability := by
  constructor
  · intro only
    obtain ⟨free, other, _⟩ := (offers_by_rules _ _ _ _).mp ((only capability).mpr rfl)
    refine ⟨free, other, fun candidate => ?_⟩
    rw [← only candidate, offers_by_rules]
    exact ⟨fun eligible => ⟨free, other, eligible⟩, fun offered => offered.2.2⟩
  · rintro ⟨free, other, alone⟩ candidate
    rw [offers_by_rules, alone]
    exact ⟨fun offered => offered.2.2, fun same => ⟨free, other, same⟩⟩

theorem offered_declared (topology : Topology) (scope : Scope) (template capability : String)
    (offered : topology.Offers scope template capability) :
    ∃ type, topology.capabilityType? template capability = some type := by
  obtain ⟨_, _, node, declared, found, kept, _⟩ := (offers_by_rules _ _ _ _).mp offered
  exact ⟨declared.type, (declares_iff _ _ _ _).mp ⟨node, declared, found, kept, rfl⟩⟩

theorem alone_of_key_order (key : α → String) (values : List α)
    (ordered : values.Pairwise fun before after => key before < key after) (wanted : String)
    (value : α) (member : value ∈ values) (same : ∀ other ∈ values, key other = wanted) :
    values = [value] := by
  match values with
  | [] => cases member
  | [only] => rw [List.mem_singleton.mp member]
  | first :: second :: rest =>
      have below := (List.pairwise_cons.mp ordered).1 second List.mem_cons_self
      have sameFirst := same first List.mem_cons_self
      have sameSecond := same second (List.mem_cons_of_mem _ List.mem_cons_self)
      rw [sameFirst, sameSecond] at below
      exact absurd below (String.lt_irrefl wanted)

theorem preferred_only_iff (topology : Topology) (scope : Scope) (template capability : String) :
    (∃ matched : MatchedCapability, matched.id = capability ∧
        (scope.query topology).resolve.preferredMatch =
          some { template := ⟨template⟩, capabilities := [matched] }) ↔
      scope.preselected = some template ∧ topology.OffersOnly scope template capability := by
  have answers := (scope.query topology).resolve_answers
  constructor
  · rintro ⟨matched, rfl, preferred⟩
    obtain ⟨member, wanted⟩ := (answers.preferred _).mp preferred
    refine ⟨wanted, ?_⟩
    intro other
    rw [offers_iff]
    constructor
    · rintro ⟨target, offered, named, another, inside, rfl⟩
      -- A second target of the same name would be preferred as well.
      have alike := (answers.preferred target).mpr ⟨offered, wanted.trans (congrArg some named.symm)⟩
      cases preferred.symm.trans alike
      rw [List.mem_singleton.mp inside]
    · rintro rfl
      exact ⟨_, member, rfl, matched, List.mem_singleton_self matched, rfl⟩
  · rintro ⟨wanted, only⟩
    obtain ⟨⟨⟨name⟩, capabilities⟩, member, named, matched, inside, known⟩ :=
      (offers_iff _ _ _ _).mp ((only capability).mpr rfl)
    change name = template at named
    subst named
    obtain ⟨_, offers⟩ := (scope.query topology).resolve_offers _ member
    have alone : capabilities = [matched] := by
      refine alone_of_key_order MatchedCapability.id _ offers.ordered capability matched inside ?_
      intro other among
      exact (only other.id).mp ((offers_iff _ _ _ _).mpr ⟨_, member, rfl, other, among, rfl⟩)
    refine ⟨matched, known, ?_⟩
    rw [← alone]
    exact (answers.preferred _).mpr ⟨member, wanted⟩

def RelationshipChoice.derived (relationship : Option RelationshipType)
    (target capability : Option String) : RelationshipChoice where
  relationship
  target
  targetedCapabilityName := capability
  name := do return defaultName (← relationship) (← target)

namespace Wizard

/-- A wizard over the topology chooses what the author had in mind if just one capability of it is
offered, and else nothing. -/
theorem preselected_iff (wizard : Wizard) (scope : Scope) (template capability : String)
    (active : wizard.closed = false) :
    wizard.preselected? (scope.query wizard.topology).resolve = some (template, capability) ↔
      scope.preselected = some template ∧
        wizard.topology.OffersOnly scope template capability := by
  rw [← preferred_only_iff, preselected_some_iff]
  constructor
  · rintro ⟨_, preferred⟩
    exact preferred
  · rintro ⟨matched, rfl, preferred⟩
    have only := (preferred_only_iff wizard.topology scope template matched.id).mp
      ⟨matched, rfl, preferred⟩
    obtain ⟨type, declared⟩ := offered_declared wizard.topology scope template matched.id
      ((only.2 matched.id).mpr rfl)
    have selects := preselects_iff wizard _ template matched active preferred
    exact ⟨selects.mpr ⟨type, declared⟩, matched, rfl, preferred⟩

structure Holds (wizard : Wizard) (topology : Topology) (choice : RelationshipChoice) : Prop where
  active : wizard.closed = false
  topology : wizard.topology = topology
  data : wizard.data = choice

theorem related_derived (wizard : Wizard) (type : RelationshipType)
    (chosen : Option RelationshipType) (target capability : Option String)
    (data : wizard.data = .derived chosen target capability) :
    (wizard.related type).data = .derived (some type) target capability := by
  rw [related, data]
  cases target <;> rfl

theorem targeted_derived (wizard : Wizard) (target : String) (capability : Option String)
    (filters : List HiddenFilter) (chosen : Option RelationshipType)
    (before chosenBefore : Option String)
    (data : wizard.data = .derived chosen before chosenBefore) :
    (wizard.targeted target capability filters).data =
      .derived chosen (some target) capability := by
  rw [targeted, data]
  cases chosen <;> rfl

/-- After the in-process answer a new wizard holds the type that the requirement asks for, and the
target in mind if only one capability of it is offered. -/
theorem applied_holds (wizard : Wizard) (topology : Topology) (scope : Scope)
    (fresh : wizard.Holds topology {}) :
    ∃ capability,
      (wizard.applyResolved (scope.query topology).resolve).Holds topology
        (.derived
          (scope.requirement.relationshipType.map (relationshipTypeOf topology.relationshipTypes))
          (capability.bind fun _ => scope.preselected) capability) ∧
      ∀ id, capability = some id ↔
        ∃ target, scope.preselected = some target ∧ topology.OffersOnly scope target id := by
  obtain ⟨active, rfl, fresh⟩ := fresh
  let resolved := (scope.query wizard.topology).resolve
  have turns := apply_resolved_turns wizard resolved active
  have holds : ∀ choice, (wizard.applyResolved resolved).data = choice →
      (wizard.applyResolved resolved).Holds wizard.topology choice := fun _ data =>
    ⟨(turns_closed _ _ turns).trans active, turns_topology _ _ turns, data⟩
  have type : resolved.relationshipType = scope.requirement.relationshipType.map
      (relationshipTypeOf wizard.topology.relationshipTypes) :=
    (scope.query wizard.topology).resolve_type
  have stored : (wizard.store resolved).data = .derived resolved.relationshipType none none := by
    rw [store, fresh]
    cases resolved.relationshipType <;> rfl
  rw [← type]
  cases selected : wizard.preselected? resolved with
  | none =>
      refine ⟨none, holds _ ?_, ?_⟩
      · rw [unselected_stored wizard resolved selected, stored]
        rfl
      · intro id
        refine ⟨nofun, ?_⟩
        rintro ⟨target, wanted, only⟩
        have selects := (preselected_iff wizard scope target id active).mpr ⟨wanted, only⟩
        cases selected.symm.trans selects
  | some choice =>
      obtain ⟨target, capability⟩ := choice
      obtain ⟨filters, _, same⟩ := preselected_targeted wizard resolved target capability selected
      obtain ⟨wanted, only⟩ := (preselected_iff wizard scope target capability active).mp selected
      refine ⟨some capability, holds _ ?_, ?_⟩
      · rw [same, targeted_derived _ target _ filters _ _ _ stored, Option.bind_some, wanted]
      · intro id
        constructor
        · rintro ⟨rfl⟩
          exact ⟨target, wanted, only⟩
        · rintro ⟨other, also, alone⟩
          cases wanted.symm.trans also
          rw [(alone capability).mp ((only capability).mpr rfl)]

end Wizard

end Wiring
