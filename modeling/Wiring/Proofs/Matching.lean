import Wiring.Proofs.Ancestry
import Wiring.Proofs.LookUps
import Wiring.Resolution

/-!
What the in-process resolver answers. `TargetQuery.Answers` says by rules which
targets a query has, in which order and with which capabilities, and which of them
is preferred; an answer meets the rules exactly if it is the one computed.
-/

namespace Wiring

theorem scope_of_requirement_iff (topology : Topology) (source requirementName : String)
    (scope : Scope) :
    Scope.ofRequirement topology source requirementName = .ok scope ↔
      ∃ template requirement, topology.nodeTemplates.find? source = some template ∧
        template.requirements.find? requirementName = some requirement ∧
        scope = { source, requirementName, requirement } := by
  unfold Scope.ofRequirement
  cases found : topology.nodeTemplates.find? source with
  | none => simp
  | some template =>
      cases needed : template.requirements.find? requirementName with
      | none => simp [needed]
      | some requirement => simp [needed, eq_comm]

namespace TargetQuery

/-- The requirement has a bound, and its source fulfils it at least that often already. -/
def Saturated (query : TargetQuery) : Prop :=
  ∃ bound source, query.requirement.upperBound = some bound ∧
    query.nodeTemplates.find? query.sourceElementName = some source ∧
    bound.toNat ≤ (source.fulfilling query.requirementName).encard

/-- The capability is of the required type or derives from it, and if it has a bound, fewer
relationships of the whole topology lead to it. -/
def Eligible (query : TargetQuery) (template id : String) (capability : Capability) : Prop :=
  Derives query.capabilityTypes capability.type query.requirement.type ∧
    ∀ bound, capability.upperBound = some bound →
      (leadingTo query.nodeTemplates template id).encard < bound.toNat

def EligibleOn (query : TargetQuery) (name id : String) : Prop :=
  ∃ template capability, query.nodeTemplates.find? name = some template ∧
    template.capabilities.find? id = some capability ∧ query.Eligible name id capability

structure OnlyThrough (query : TargetQuery) (template id : String) : Prop where
  free : ¬ query.Saturated
  other : template ≠ query.sourceElementName
  alone : ∀ candidate, query.EligibleOn template candidate ↔ candidate = id

structure Offers (query : TargetQuery) (target : TargetMatch) : Prop where
  other : target.template.name ≠ query.sourceElementName
  nonempty : target.capabilities ≠ []
  ordered : target.capabilities.Pairwise fun left right => left.id < right.id
  exactly : ∃ template, query.nodeTemplates.find? target.template.name = some template ∧
    ∀ matched, matched ∈ target.capabilities ↔
      ∃ capability, template.capabilities.find? matched.id = some capability ∧
        capability.type = matched.type ∧ query.Eligible target.template.name matched.id capability

structure Answers (query : TargetQuery) (resolved : ResolvedTargets) : Prop where
  ordered : resolved.targets.Pairwise fun left right => left.template.name < right.template.name
  saturated : query.Saturated → resolved.targets = [] ∧ resolved.preferredMatch = none
  offered : ¬ query.Saturated → ∀ target, target ∈ resolved.targets ↔ query.Offers target
  preferred : ∀ target, resolved.preferredMatch = some target ↔
    target ∈ resolved.targets ∧ query.preselectedTargetName = some target.template.name
  defaultType : TypeFor query.relationshipTypes query.requirement.relationshipType
    resolved.relationshipType

theorem saturated_iff (query : TargetQuery) : query.saturated = true ↔ query.Saturated := by
  unfold saturated Saturated
  simp only [le_fulfilling_iff]
  cases query.requirement.upperBound with
  | none => simp
  | some bound => cases query.nodeTemplates.find? query.sourceElementName <;> simp

theorem eligible_iff (query : TargetQuery) (template id : String) (capability : Capability) :
    query.eligible template id capability = true ↔ query.Eligible template id capability := by
  have room : query.hasRoom template id capability = true ↔
      ∀ bound, capability.upperBound = some bound →
        (leadingTo query.nodeTemplates template id).encard < bound.toNat := by
    unfold hasRoom
    simp only [leading_to_lt_iff]
    cases capability.upperBound <;> simp
  rw [eligible, Bool.and_eq_true, derives_from_iff, room, Eligible]

theorem mem_eligible_capabilities_iff (query : TargetQuery) (name : String)
    (template : NodeTemplate) (matched : MatchedCapability) :
    matched ∈ query.eligibleCapabilities name template ↔
      ∃ capability, template.capabilities.find? matched.id = some capability ∧
        capability.type = matched.type ∧ query.Eligible name matched.id capability := by
  simp only [eligibleCapabilities, List.mem_filterMap]
  constructor
  · rintro ⟨⟨id, capability⟩, member, kept⟩
    simp only [Option.ite_none_right_eq_some, Option.some.injEq] at kept
    obtain ⟨eligible, rfl⟩ := kept
    exact ⟨capability, (template.capabilities.mem_entries_iff id capability).mp member, rfl,
      (query.eligible_iff name id capability).mp eligible⟩
  · rintro ⟨capability, found, type, eligible⟩
    refine ⟨(matched.id, capability),
      (template.capabilities.mem_entries_iff matched.id capability).mpr found, ?_⟩
    simp [(query.eligible_iff name matched.id capability).mpr eligible, type]

theorem eligible_capabilities_ordered (query : TargetQuery) (name : String)
    (template : NodeTemplate) :
    (query.eligibleCapabilities name template).Pairwise fun left right => left.id < right.id := by
  refine List.Pairwise.filterMap _ ?_ template.capabilities.ordered
  rintro ⟨id, capability⟩ ⟨other, another⟩ below left keptLeft right keptRight
  simp only [Option.ite_none_right_eq_some, Option.some.injEq] at keptLeft keptRight
  rw [← keptLeft.2, ← keptRight.2]
  exact below

theorem target_of_iff (query : TargetQuery) (name : String) (template : NodeTemplate)
    (target : TargetMatch) :
    query.targetOf? name template = some target ↔
      target.template.name = name ∧ name ≠ query.sourceElementName ∧ target.capabilities ≠ [] ∧
        target.capabilities = query.eligibleCapabilities name template := by
  obtain ⟨⟨title⟩, capabilities⟩ := target
  unfold targetOf?
  by_cases source : name = query.sourceElementName
  · simp [source]
  · cases found : query.eligibleCapabilities name template with
    | nil => simp +contextual [source]
    | cons first rest =>
        simp only [source, if_false, Option.some.injEq, TargetMatch.mk.injEq,
          TargetTemplate.mk.injEq, ne_eq, not_false_eq_true, true_and]
        constructor
        · rintro ⟨rfl, rfl⟩
          exact ⟨rfl, List.cons_ne_nil _ _, rfl⟩
        · rintro ⟨rfl, _, rfl⟩
          exact ⟨rfl, rfl⟩

theorem matching_targets_ordered (query : TargetQuery) :
    query.matchingTargets.Pairwise fun left right => left.template.name < right.template.name := by
  refine List.Pairwise.filterMap _ ?_ query.nodeTemplates.ordered
  rintro ⟨name, template⟩ ⟨other, another⟩ below left keptLeft right keptRight
  rw [((query.target_of_iff name template left).mp keptLeft).1,
    ((query.target_of_iff other another right).mp keptRight).1]
  exact below

theorem mem_matching_targets_iff (query : TargetQuery) (target : TargetMatch) :
    target ∈ query.matchingTargets ↔ query.Offers target := by
  simp only [matchingTargets, List.mem_filterMap]
  constructor
  · rintro ⟨⟨name, template⟩, member, kept⟩
    obtain ⟨rfl, other, nonempty, capabilities⟩ := (query.target_of_iff name template target).mp kept
    refine ⟨other, nonempty, ?_, template, (query.nodeTemplates.mem_entries_iff _ _).mp member, ?_⟩
    · exact capabilities ▸ query.eligible_capabilities_ordered target.template.name template
    · intro matched
      rw [capabilities]
      exact query.mem_eligible_capabilities_iff target.template.name template matched
  · rintro ⟨other, nonempty, ordered, template, found, members⟩
    refine ⟨(target.template.name, template),
      (query.nodeTemplates.mem_entries_iff _ _).mpr found, ?_⟩
    refine (query.target_of_iff _ _ _).mpr ⟨rfl, other, nonempty, ?_⟩
    refine eq_of_key_order MatchedCapability.id ordered
      (query.eligible_capabilities_ordered target.template.name template) fun matched => ?_
    rw [members, query.mem_eligible_capabilities_iff]

/-- At most one member of a list in the strict order of its keys has a key. -/
theorem find_key_iff (key : α → String) (values : List α)
    (ordered : values.Pairwise fun before after => key before < key after)
    (wanted : String) (value : α) :
    values.find? (fun candidate => key candidate == wanted) = some value ↔
      value ∈ values ∧ key value = wanted := by
  induction values with
  | nil => simp
  | cons first rest ih =>
      obtain ⟨below, tail⟩ := List.pairwise_cons.mp ordered
      by_cases here : key first = wanted
      · have met : (key first == wanted) = true := by simpa using here
        simp only [List.find?_cons, met, Option.some.injEq, List.mem_cons]
        constructor
        · rintro rfl
          exact ⟨Or.inl rfl, here⟩
        · rintro ⟨same | later, known⟩
          · exact same.symm
          · exact absurd (known.trans here.symm ▸ below value later) (String.lt_irrefl _)
      · have missed : (key first == wanted) = false := by simpa using here
        simp only [List.find?_cons, missed, ih tail, List.mem_cons]
        constructor
        · rintro ⟨later, known⟩
          exact ⟨Or.inr later, known⟩
        · rintro ⟨same | later, known⟩
          · exact absurd (same ▸ known) here
          · exact ⟨later, known⟩

theorem resolve_answers (query : TargetQuery) : query.Answers query.resolve := by
  have type : TypeFor query.relationshipTypes query.requirement.relationshipType
      query.defaultRelationshipType? := (type_for_iff _ _ _).mpr rfl
  unfold resolve
  by_cases saturated : query.Saturated
  · simp only [query.saturated_iff.mpr saturated, if_true]
    exact ⟨.nil, fun _ => ⟨rfl, rfl⟩, fun free => absurd saturated free, by simp, type⟩
  · have free : query.saturated = false := by
      simpa using mt query.saturated_iff.mp saturated
    simp only [free, Bool.false_eq_true, if_false]
    refine ⟨query.matching_targets_ordered, fun full => absurd full saturated,
      fun _ => query.mem_matching_targets_iff, ?_, type⟩
    intro target
    rw [Option.bind_eq_some_iff]
    constructor
    · rintro ⟨wanted, preselected, found⟩
      obtain ⟨member, named⟩ := (find_key_iff (fun target => target.template.name) _
        query.matching_targets_ordered wanted target).mp found
      exact ⟨member, named ▸ preselected⟩
    · rintro ⟨member, preselected⟩
      exact ⟨target.template.name, preselected, (find_key_iff (fun target => target.template.name) _
        query.matching_targets_ordered _ target).mpr ⟨member, rfl⟩⟩

theorem resolve_type (query : TargetQuery) : query.resolve.relationshipType =
    query.requirement.relationshipType.map (relationshipTypeOf query.relationshipTypes) :=
  (type_for_iff _ _ _).mp query.resolve_answers.defaultType

/-- A query that gets any targets has room left, and each of them is one by the rules. -/
theorem resolve_offers (query : TargetQuery) (target : TargetMatch)
    (member : target ∈ query.resolve.targets) : ¬ query.Saturated ∧ query.Offers target := by
  have answers := query.resolve_answers
  have free : ¬ query.Saturated := by
    intro saturated
    rw [(answers.saturated saturated).1] at member
    cases member
  exact ⟨free, (answers.offered free target).mp member⟩

/-- The rules leave no choice. -/
theorem answers_unique (query : TargetQuery) (left right : ResolvedTargets)
    (answersLeft : query.Answers left) (answersRight : query.Answers right) : left = right := by
  have targets : left.targets = right.targets := by
    by_cases saturated : query.Saturated
    · rw [(answersLeft.saturated saturated).1, (answersRight.saturated saturated).1]
    · refine eq_of_key_order (fun target => target.template.name) answersLeft.ordered
        answersRight.ordered fun target => ?_
      rw [answersLeft.offered saturated, answersRight.offered saturated]
  have preferred : left.preferredMatch = right.preferredMatch := by
    refine Option.ext fun target => ?_
    rw [answersLeft.preferred, answersRight.preferred, targets]
  have types : left.relationshipType = right.relationshipType := by
    rw [(type_for_iff _ _ _).mp answersLeft.defaultType,
      (type_for_iff _ _ _).mp answersRight.defaultType]
  cases left
  cases right
  simp_all

/-- Every query is answered, with the one answer that meets the rules. -/
theorem in_process_answer_exact (query : TargetQuery) :
    ∃ resolved, Resolver.answer query .inProcess = .resolved resolved ∧
      ∀ other, query.Answers other ↔ other = resolved := by
  refine ⟨query.resolve, rfl, fun other => ⟨fun answers => ?_, ?_⟩⟩
  · exact query.answers_unique other query.resolve answers query.resolve_answers
  · rintro rfl
    exact query.resolve_answers

end TargetQuery

end Wiring
