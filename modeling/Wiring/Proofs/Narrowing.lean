import Mathlib.Data.List.Basic
import Wiring.Proofs.Capacity

/-!
What one more relationship takes from the answers to later queries, whoever asks. The
capability that it leads to is no longer offered once its bound is reached, and its
source gets no targets any more for a requirement that is fulfilled as often as it
may be. All else is answered as before.
-/

namespace Wiring

/-- A value that is replaced by one that reads alike leaves all readings as they were. -/
theorem filter_map_insert_entry (read : String × α → Option β) (name : String) (value kept : α)
    (same : read (name, value) = read (name, kept)) (entries : List (String × α))
    (ordered : InNameOrder entries) (found : entries.lookup name = some kept) :
    (insertEntry name value entries).filterMap read = entries.filterMap read := by
  induction entries with
  | nil => cases found
  | cons first rest ih =>
      obtain ⟨other, old⟩ := first
      obtain ⟨below, tail⟩ := List.pairwise_cons.mp ordered
      rw [List.lookup_cons] at found
      by_cases here : name = other
      · subst here
        rw [beq_self_eq_true] at found
        cases found
        rw [insertEntry, if_neg (String.lt_irrefl name), if_pos rfl, List.filterMap_cons,
          List.filterMap_cons, same]
      · rw [beq_false_of_ne here] at found
        -- A name that is found further on is not in front of the first entry.
        have behind : ¬ name < other := by
          intro before
          have absent := lookup_below name rest fun entry member =>
            String.lt_trans before (below entry member)
          cases absent.symm.trans found
        rw [insertEntry, if_neg behind, if_neg here, List.filterMap_cons, List.filterMap_cons,
          ih tail found]

theorem NameMap.filter_map_insert (read : String × α → Option β) (map : NameMap α) (name : String)
    (value kept : α) (found : map.find? name = some kept)
    (same : read (name, value) = read (name, kept)) :
    (map.insert name value).entries.filterMap read = map.entries.filterMap read :=
  filter_map_insert_entry read name value kept same map.entries map.ordered found

def ResolvedTargets.Pairs (resolved : ResolvedTargets) (template : String)
    (matched : MatchedCapability) : Prop :=
  ∃ target ∈ resolved.targets, target.template.name = template ∧ matched ∈ target.capabilities

/-- One more relationship for a topology. It leaves one of the templates, under a name that is still
free there, and leads to a declared capability. -/
structure Topology.Addition (topology : Topology) where
  source : String
  sourceTemplate : NodeTemplate
  foundSource : topology.nodeTemplates.find? source = some sourceTemplate
  name : String
  fresh : sourceTemplate.relationships.find? name = none
  requirement : String
  type : String
  target : String
  targetTemplate : NodeTemplate
  foundTarget : topology.nodeTemplates.find? target = some targetTemplate
  id : String
  capability : Capability
  declared : targetTemplate.capabilities.find? id = some capability

theorem saturated_scope_iff (topology : Topology) (scope : Scope) (source : NodeTemplate)
    (found : topology.nodeTemplates.find? scope.source = some source) :
    (scope.query topology).Saturated ↔ ∃ bound ∈ scope.requirement.upperBound,
      bound.toNat ≤ source.fulfilmentCount scope.requirementName := by
  constructor
  · rintro ⟨bound, other, bounded, foundOther, full⟩
    cases Option.some.inj (found.symm.trans foundOther)
    exact ⟨bound, bounded, (le_fulfilling_iff _ _ _).mp full⟩
  · rintro ⟨bound, bounded, full⟩
    exact ⟨bound, source, bounded, found, (le_fulfilling_iff _ _ _).mpr full⟩

theorem resolve_unsaturated (query : TargetQuery) (free : ¬ query.Saturated) :
    query.resolve.targets = query.matchingTargets := by
  have unsaturated : query.saturated = false :=
    Bool.eq_false_iff.mpr (mt query.saturated_iff.mp free)
  rw [TargetQuery.resolve, unsaturated]
  rfl

namespace Topology.Addition

variable {topology : Topology} (addition : topology.Addition)

def relationship : Relationship :=
  .fulfilling addition.requirement addition.type addition.target addition.id

def made : Topology :=
  topology.relate addition.source addition.name addition.relationship

/-- The capability has a bound, and is full with one more relationship that leads to it. -/
def Fills : Prop :=
  ∃ bound ∈ addition.capability.upperBound,
    bound.toNat - 1 ≤ incomingCount topology.nodeTemplates addition.target addition.id

/-- Targets are asked for the requirement that gets fulfilled, and with that it has reached its
bound. -/
def Exhausts (scope : Scope) : Prop :=
  scope.source = addition.source ∧ scope.requirementName = addition.requirement ∧
    ∃ bound ∈ scope.requirement.upperBound,
      bound.toNat - 1 ≤ addition.sourceTemplate.fulfilmentCount addition.requirement

instance : Decidable addition.Fills :=
  inferInstanceAs (Decidable (∃ bound ∈ _, _))

instance (scope : Scope) : Decidable (addition.Exhausts scope) :=
  inferInstanceAs (Decidable (_ ∧ _ ∧ ∃ bound ∈ _, _))

/-- What is left of a target: a filled capability is struck out, and with its last capability the
target. -/
def rest? (target : TargetMatch) : Option TargetMatch :=
  if addition.Fills ∧ target.template.name = addition.target then
    match target.capabilities.filter fun matched => matched.id ≠ addition.id with
    | [] => none
    | capabilities => some { target with capabilities }
  else some target

theorem find_made (wanted : String) :
    addition.made.nodeTemplates.find? wanted =
      if wanted = addition.source then
        some (addition.sourceTemplate.relate addition.name addition.relationship)
      else topology.nodeTemplates.find? wanted := by
  rw [made, relate_templates topology _ _ _ _ addition.foundSource, NameMap.find_insert]

theorem query_made (scope : Scope) :
    scope.query addition.made =
      { scope.query topology with nodeTemplates := addition.made.nodeTemplates } := by
  simp only [Scope.query, made, relate, addition.foundSource]

theorem incoming_made (template id : String) :
    incomingCount addition.made.nodeTemplates template id =
      incomingCount topology.nodeTemplates template id +
        if template = addition.target ∧ id = addition.id then 1 else 0 := by
  have counted := incoming_count_relate topology addition.source addition.name
    addition.relationship addition.sourceTemplate addition.foundSource template id
  rw [addition.fresh, Option.elim_none, Nat.add_zero] at counted
  rw [made, counted]
  have led : addition.relationship.targets template id = true ↔
      template = addition.target ∧ id = addition.id := by
    rw [targets_iff, eq_comm, relationship, Relationship.fulfilling, Option.some.injEq,
      @eq_comm _ addition.id]
  by_cases here : template = addition.target ∧ id = addition.id
  · rw [led.mpr here, if_pos here, Bool.toNat_true]
  · rw [Bool.eq_false_iff.mpr (mt led.mp here), if_neg here, Bool.toNat_false]

theorem fulfilment_made (requirement : String) :
    (addition.sourceTemplate.relate addition.name addition.relationship).fulfilmentCount
        requirement =
      addition.sourceTemplate.fulfilmentCount requirement +
        if requirement = addition.requirement then 1 else 0 := by
  have counted := fulfilment_count_relate addition.sourceTemplate addition.name
    addition.relationship requirement
  rw [addition.fresh, Option.elim_none, Nat.add_zero] at counted
  rw [counted]
  by_cases here : requirement = addition.requirement
  · rw [here, if_pos rfl, relationship, Relationship.fulfilling, beq_self_eq_true, Bool.toNat_true]
  · rw [if_neg here, relationship, Relationship.fulfilling, beq_false_of_ne (Ne.symm here),
      Bool.toNat_false]

/-- A requirement is accepted as before, for it is not the relationships that declare it. -/
theorem scope_made (source requirement : String) :
    Scope.ofRequirement addition.made source requirement =
      Scope.ofRequirement topology source requirement := by
  rw [Scope.ofRequirement, Scope.ofRequirement, addition.find_made]
  by_cases here : source = addition.source
  · rw [if_pos here, here, addition.foundSource]
    rfl
  · rw [if_neg here]

theorem saturated_made (scope : Scope) :
    (scope.query addition.made).Saturated ↔
      (scope.query topology).Saturated ∨ addition.Exhausts scope := by
  by_cases here : scope.source = addition.source
  · have before := saturated_scope_iff topology scope addition.sourceTemplate
      (by rw [here, addition.foundSource])
    have after := saturated_scope_iff addition.made scope
      (addition.sourceTemplate.relate addition.name addition.relationship)
      (by rw [addition.find_made, if_pos here])
    rw [after, before, addition.fulfilment_made]
    by_cases same : scope.requirementName = addition.requirement
    · rw [if_pos same, same]
      constructor
      · rintro ⟨bound, bounded, full⟩
        exact .inr ⟨here, same, bound, bounded, by omega⟩
      · rintro (⟨bound, bounded, full⟩ | ⟨_, _, bound, bounded, last⟩)
        · exact ⟨bound, bounded, Nat.le_add_right_of_le full⟩
        · exact ⟨bound, bounded, by omega⟩
    · rw [if_neg same, Nat.add_zero]
      exact ⟨.inl, fun either => either.resolve_right fun exhausts => same exhausts.2.1⟩
  · have unmoved : addition.made.nodeTemplates.find? scope.source =
        topology.nodeTemplates.find? scope.source := by
      rw [addition.find_made, if_neg here]
    constructor
    · rintro ⟨bound, source, bounded, found, full⟩
      exact .inl ⟨bound, source, bounded, unmoved.symm.trans found, full⟩
    · rintro (⟨bound, source, bounded, found, full⟩ | exhausts)
      · exact ⟨bound, source, bounded, unmoved.trans found, full⟩
      · exact absurd exhausts.1 here

/-- A declared capability stays eligible, unless it is the one that gets filled. -/
theorem eligible_made (scope : Scope) (name : String) (template : NodeTemplate)
    (found : topology.nodeTemplates.find? name = some template) (id : String)
    (capability : Capability) (declared : template.capabilities.find? id = some capability) :
    (scope.query addition.made).Eligible name id capability ↔
      (scope.query topology).Eligible name id capability ∧
        ¬ (addition.Fills ∧ name = addition.target ∧ id = addition.id) := by
  rw [addition.query_made]
  simp only [TargetQuery.Eligible, leading_to_lt_iff, Scope.query, addition.incoming_made]
  by_cases here : name = addition.target ∧ id = addition.id
  · obtain ⟨rfl, rfl⟩ := here
    cases Option.some.inj (found.symm.trans addition.foundTarget)
    cases Option.some.inj (declared.symm.trans addition.declared)
    rw [if_pos ⟨rfl, rfl⟩]
    constructor
    · rintro ⟨derived, room⟩
      refine ⟨⟨derived, fun bound bounded => Nat.lt_of_succ_lt (room bound bounded)⟩, ?_⟩
      rintro ⟨⟨bound, bounded, last⟩, _⟩
      have one := room bound bounded
      omega
    · rintro ⟨⟨derived, room⟩, unfilled⟩
      refine ⟨derived, fun bound bounded => Nat.lt_of_not_le fun full => unfilled ?_⟩
      exact ⟨⟨bound, bounded, by omega⟩, rfl, rfl⟩
  · simp only [if_neg here, Nat.add_zero]
    exact ⟨fun eligible => ⟨eligible, fun filled => here filled.2⟩, And.left⟩

theorem eligible_capabilities_made (scope : Scope) (name : String) (template : NodeTemplate)
    (found : topology.nodeTemplates.find? name = some template) :
    (scope.query addition.made).eligibleCapabilities name template =
      if addition.Fills ∧ name = addition.target then
        ((scope.query topology).eligibleCapabilities name template).filter
          fun matched => matched.id ≠ addition.id
      else (scope.query topology).eligibleCapabilities name template := by
  have ordered := (scope.query topology).eligible_capabilities_ordered name template
  have orderedMade := (scope.query addition.made).eligible_capabilities_ordered name template
  by_cases filled : addition.Fills ∧ name = addition.target
  · rw [if_pos filled]
    refine eq_of_key_order MatchedCapability.id orderedMade (ordered.filter _) fun matched => ?_
    rw [TargetQuery.mem_eligible_capabilities_iff, List.mem_filter,
      TargetQuery.mem_eligible_capabilities_iff, decide_eq_true_iff]
    constructor
    · rintro ⟨capability, declared, type, eligible⟩
      obtain ⟨before, kept⟩ :=
        (addition.eligible_made scope name template found _ capability declared).mp eligible
      exact ⟨⟨capability, declared, type, before⟩, fun same => kept ⟨filled.1, filled.2, same⟩⟩
    · rintro ⟨⟨capability, declared, type, before⟩, other⟩
      refine ⟨capability, declared, type, ?_⟩
      exact (addition.eligible_made scope name template found _ capability declared).mpr
        ⟨before, fun struck => other struck.2.2⟩
  · rw [if_neg filled]
    refine eq_of_key_order MatchedCapability.id orderedMade ordered fun matched => ?_
    rw [TargetQuery.mem_eligible_capabilities_iff, TargetQuery.mem_eligible_capabilities_iff]
    refine exists_congr fun capability => and_congr_right fun declared => and_congr_right fun _ => ?_
    rw [addition.eligible_made scope name template found _ capability declared]
    exact and_iff_left fun struck => filled ⟨struck.1, struck.2.1⟩

theorem target_made (scope : Scope) (name : String) (template : NodeTemplate)
    (found : topology.nodeTemplates.find? name = some template) :
    (scope.query addition.made).targetOf? name template =
      ((scope.query topology).targetOf? name template).bind addition.rest? := by
  have asker (current : Topology) : (scope.query current).sourceElementName = scope.source := rfl
  rw [TargetQuery.targetOf?, TargetQuery.targetOf?, asker, asker,
    addition.eligible_capabilities_made scope name template found]
  by_cases self : name = scope.source
  · rw [if_pos self, if_pos self]
    rfl
  · rw [if_neg self, if_neg self]
    by_cases filled : addition.Fills ∧ name = addition.target
    · rw [if_pos filled]
      cases (scope.query topology).eligibleCapabilities name template with
      | nil => rfl
      | cons first others => exact (if_pos filled).symm
    · rw [if_neg filled]
      cases (scope.query topology).eligibleCapabilities name template with
      | nil => rfl
      | cons first others => exact (if_neg filled).symm

theorem matching_targets_made (scope : Scope) :
    (scope.query addition.made).matchingTargets =
      (scope.query topology).matchingTargets.filterMap addition.rest? := by
  have replaced : addition.made.nodeTemplates = topology.nodeTemplates.insert addition.source
      (addition.sourceTemplate.relate addition.name addition.relationship) :=
    relate_templates topology _ _ _ _ addition.foundSource
  calc (scope.query addition.made).matchingTargets
      = topology.nodeTemplates.entries.filterMap fun entry =>
          (scope.query addition.made).targetOf? entry.1 entry.2 := by
        rw [TargetQuery.matchingTargets, Scope.query, replaced]
        -- The source itself reads as before: its capabilities are the same.
        exact NameMap.filter_map_insert _ _ _ _ _ addition.foundSource rfl
    _ = topology.nodeTemplates.entries.filterMap fun entry =>
          ((scope.query topology).targetOf? entry.1 entry.2).bind addition.rest? := by
        refine List.filterMap_congr fun entry member => ?_
        exact addition.target_made scope entry.1 entry.2
          ((NameMap.mem_entries_iff _ _ _).mp member)
    _ = (scope.query topology).matchingTargets.filterMap addition.rest? :=
        List.filterMap_filterMap.symm

theorem rest_pairs_iff (target : TargetMatch) (name : String) (matched : MatchedCapability) :
    (∃ left, addition.rest? target = some left ∧ left.template.name = name ∧
        matched ∈ left.capabilities) ↔
      (target.template.name = name ∧ matched ∈ target.capabilities) ∧
        ¬ (addition.Fills ∧ name = addition.target ∧ matched.id = addition.id) := by
  have kept : matched ∈ (target.capabilities.filter fun matched => matched.id ≠ addition.id) ↔
      matched ∈ target.capabilities ∧ matched.id ≠ addition.id := by
    rw [List.mem_filter, decide_eq_true_iff]
  rw [rest?]
  by_cases filled : addition.Fills ∧ target.template.name = addition.target
  · rw [if_pos filled]
    cases others : target.capabilities.filter fun matched => matched.id ≠ addition.id with
    | nil =>
        rw [others] at kept
        constructor
        · rintro ⟨left, nothing, _⟩
          cases nothing
        · rintro ⟨⟨rfl, member⟩, unstruck⟩
          exact absurd (kept.mpr ⟨member, fun same => unstruck ⟨filled.1, filled.2, same⟩⟩)
            List.not_mem_nil
    | cons first rest =>
        rw [others] at kept
        constructor
        · rintro ⟨_, ⟨rfl⟩, rfl, member⟩
          obtain ⟨old, other⟩ := kept.mp member
          exact ⟨⟨rfl, old⟩, fun struck => other struck.2.2⟩
        · rintro ⟨⟨rfl, member⟩, unstruck⟩
          exact ⟨_, rfl, rfl, kept.mpr ⟨member, fun same => unstruck ⟨filled.1, filled.2, same⟩⟩⟩
  · rw [if_neg filled]
    constructor
    · rintro ⟨_, ⟨rfl⟩, rfl, member⟩
      exact ⟨⟨rfl, member⟩, fun struck => filled ⟨struck.1, struck.2.1⟩⟩
    · rintro ⟨⟨rfl, member⟩, _⟩
      exact ⟨target, rfl, rfl, member⟩

/-- How an answer is narrowed by one more relationship. The order of the targets stays, and a match is
preferred only if it is still there. -/
structure Narrows (scope : Scope) (before after : ResolvedTargets) : Prop where
  exhausted : addition.Exhausts scope → after.targets = []
  struck : ¬ addition.Exhausts scope → after.targets = before.targets.filterMap addition.rest?
  pairs : ∀ name matched, after.Pairs name matched ↔ before.Pairs name matched ∧
    ¬ addition.Exhausts scope ∧
    ¬ (addition.Fills ∧ name = addition.target ∧ matched.id = addition.id)
  preferred : ∀ target, after.preferredMatch = some target ↔
    target ∈ after.targets ∧ scope.preselected = some target.template.name
  defaultType : after.relationshipType = before.relationshipType

theorem exhausted_targets (scope : Scope) (exhausts : addition.Exhausts scope) :
    (scope.query addition.made).resolve.targets = [] :=
  ((scope.query addition.made).resolve_answers.saturated
    ((addition.saturated_made scope).mpr (.inr exhausts))).1

theorem struck_targets (scope : Scope) (free : ¬ addition.Exhausts scope) :
    (scope.query addition.made).resolve.targets =
      (scope.query topology).resolve.targets.filterMap addition.rest? := by
  by_cases saturated : (scope.query topology).Saturated
  · have still := (addition.saturated_made scope).mpr (.inl saturated)
    rw [((scope.query topology).resolve_answers.saturated saturated).1,
      ((scope.query addition.made).resolve_answers.saturated still).1, List.filterMap_nil]
  · have still : ¬ (scope.query addition.made).Saturated := fun full =>
      ((addition.saturated_made scope).mp full).elim saturated free
    rw [resolve_unsaturated _ saturated, resolve_unsaturated _ still,
      addition.matching_targets_made]

theorem struck_pairs_iff (targets : List TargetMatch) (name : String)
    (matched : MatchedCapability) :
    (∃ left ∈ targets.filterMap addition.rest?, left.template.name = name ∧
        matched ∈ left.capabilities) ↔
      (∃ target ∈ targets, target.template.name = name ∧ matched ∈ target.capabilities) ∧
        ¬ (addition.Fills ∧ name = addition.target ∧ matched.id = addition.id) := by
  constructor
  · rintro ⟨left, member, paired⟩
    obtain ⟨target, old, rest⟩ := List.mem_filterMap.mp member
    obtain ⟨before, unstruck⟩ := (addition.rest_pairs_iff target name matched).mp ⟨left, rest, paired⟩
    exact ⟨⟨target, old, before⟩, unstruck⟩
  · rintro ⟨⟨target, old, before⟩, unstruck⟩
    obtain ⟨left, rest, paired⟩ :=
      (addition.rest_pairs_iff target name matched).mpr ⟨before, unstruck⟩
    exact ⟨left, List.mem_filterMap.mpr ⟨target, old, rest⟩, paired⟩

theorem resolve_narrows (scope : Scope) :
    addition.Narrows scope (scope.query topology).resolve (scope.query addition.made).resolve := by
  refine ⟨addition.exhausted_targets scope, addition.struck_targets scope, ?_,
    (scope.query addition.made).resolve_answers.preferred, ?_⟩
  · intro name matched
    unfold ResolvedTargets.Pairs
    by_cases exhausts : addition.Exhausts scope
    · simp [addition.exhausted_targets scope exhausts, exhausts]
    · rw [addition.struck_targets scope exhausts, addition.struck_pairs_iff]
      simp [exhausts]
  · rw [TargetQuery.resolve_type, TargetQuery.resolve_type, addition.query_made]

end Topology.Addition

/-- One more relationship does to every answer just what the bounds that it reaches ask for. -/
theorem addition_narrows_answers (topology : Topology) (addition : topology.Addition) :
    (∀ source requirement, Scope.ofRequirement addition.made source requirement =
      Scope.ofRequirement topology source requirement) ∧
    ∀ scope : Scope, ∃ before after,
      Resolver.answer (scope.query topology) .inProcess = .resolved before ∧
      Resolver.answer (scope.query addition.made) .inProcess = .resolved after ∧
      addition.Narrows scope before after :=
  ⟨addition.scope_made, fun scope => ⟨_, _, rfl, rfl, addition.resolve_narrows scope⟩⟩

def office : Topology where
  id := "office"
  nodeTemplates := .ofList [
    ("desk", { type := "pc", requirements := .ofList [("printing", { type := "print" })] }),
    ("lab", {
      type := "pc"
      requirements := .ofList [("printing", { type := "print", upperBound := some 1 })] }),
    ("printer", {
      type := "device"
      capabilities := .ofList [
        ("colour", { type := "print", upperBound := some 1 }), ("plain", { type := "print" })] })]

def labPrints : office.Addition where
  source := "lab"
  sourceTemplate := {
    type := "pc"
    requirements := .ofList [("printing", { type := "print", upperBound := some 1 })] }
  foundSource := by decide
  name := "prints"
  fresh := rfl
  requirement := "printing"
  type := "prints.on"
  target := "printer"
  targetTemplate := {
    type := "device"
    capabilities := .ofList [
      ("colour", { type := "print", upperBound := some 1 }), ("plain", { type := "print" })] }
  foundTarget := by decide
  id := "colour"
  capability := { type := "print", upperBound := some 1 }
  declared := by decide

def deskScope : Scope where
  source := "desk"
  requirementName := "printing"
  requirement := { type := "print" }
  preselected := some "printer"

def labScope : Scope where
  source := "lab"
  requirementName := "printing"
  requirement := { type := "print", upperBound := some 1 }

/-- The desk is left with plain prints, and the lab with nothing. -/
theorem office_narrows :
    Scope.ofRequirement labPrints.made "lab" "printing" = .ok labScope ∧
      (deskScope.query office).resolve.targets =
        [⟨⟨"printer"⟩, [⟨"colour", "print"⟩, ⟨"plain", "print"⟩]⟩] ∧
      (deskScope.query labPrints.made).resolve.targets =
        [⟨⟨"printer"⟩, [⟨"plain", "print"⟩]⟩] ∧
      (deskScope.query labPrints.made).resolve.preferredMatch =
        some ⟨⟨"printer"⟩, [⟨"plain", "print"⟩]⟩ ∧
      (labScope.query labPrints.made).resolve.targets = [] := by
  obtain ⟨scopes, answers⟩ := addition_narrows_answers office labPrints
  obtain ⟨_, _, ⟨rfl⟩, ⟨rfl⟩, desk⟩ := answers deskScope
  obtain ⟨_, _, ⟨rfl⟩, ⟨rfl⟩, lab⟩ := answers labScope
  have offered : (deskScope.query office).resolve.targets =
      [⟨⟨"printer"⟩, [⟨"colour", "print"⟩, ⟨"plain", "print"⟩]⟩] := by decide
  have plain : (deskScope.query labPrints.made).resolve.targets =
      [⟨⟨"printer"⟩, [⟨"plain", "print"⟩]⟩] := by
    rw [desk.struck (by decide), offered]
    decide
  refine ⟨(scopes "lab" "printing").trans (by decide), offered, plain, ?_,
    lab.exhausted (by decide)⟩
  refine (desk.preferred _).mpr ⟨?_, rfl⟩
  rw [plain]
  exact List.mem_singleton_self _

end Wiring
