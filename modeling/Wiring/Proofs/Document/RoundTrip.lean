import Wiring.Proofs.Document.Faithful

/-!
The round trip of every document, through a compact text and through an indented one.
A record needs nothing but the round trips of its fields, so the documents follow one
another from the parts of a topology upwards.
-/

namespace Wiring.Document

theorem capability_faithful : capability.Faithful := by
  refine Fields.codec_faithful _ _ ⟨?_, ?_, trivial⟩ (by decide) (fun _ => rfl)
  · exact required_faithful _ _ _ Codec.text_faithful
  · exact optionally_faithful _ _ _ Codec.bound_faithful nofun

theorem requirement_faithful : requirement.Faithful := by
  refine Fields.codec_faithful _ _ ⟨?_, ?_, ?_, trivial⟩ (by decide) (fun _ => rfl)
  · exact required_faithful _ _ _ Codec.text_faithful
  · exact optionally_faithful _ _ _ Codec.text_faithful nofun
  · exact optionally_faithful _ _ _ Codec.bound_faithful nofun

theorem relationship_faithful : relationship.Faithful := by
  refine Fields.codec_faithful _ _ ⟨?_, ?_, ?_, ?_, trivial⟩ (by decide) (fun _ => rfl)
  · exact required_faithful _ _ _ Codec.text_faithful
  · exact required_faithful _ _ _ Codec.text_faithful
  · exact required_faithful _ _ _ Codec.text_faithful
  · exact optionally_faithful _ _ _ Codec.text_faithful nofun

theorem node_template_faithful : nodeTemplate.Faithful := by
  refine Fields.codec_faithful _ _ ⟨?_, ?_, ?_, ?_, trivial⟩ (by decide) (fun _ => rfl)
  · exact required_faithful _ _ _ Codec.text_faithful
  · exact defaulted_faithful _ _ _ _ (Codec.names_faithful _ capability_faithful)
  · exact defaulted_faithful _ _ _ _ (Codec.names_faithful _ requirement_faithful)
  · exact defaulted_faithful _ _ _ _ (Codec.names_faithful _ relationship_faithful)

theorem node_type_faithful : nodeType.Faithful := by
  refine Fields.codec_faithful _ _ ⟨?_, ?_, ?_, trivial⟩ (by decide) (fun _ => rfl)
  · exact required_faithful _ _ _ Codec.text_faithful
  · exact defaulted_faithful _ _ _ _ texts_faithful
  · exact defaulted_faithful _ _ _ _ Codec.flag_faithful

theorem capability_type_faithful : capabilityType.Faithful := by
  refine Fields.codec_faithful _ _ ⟨?_, ?_, trivial⟩ (by decide) (fun _ => rfl)
  · exact required_faithful _ _ _ Codec.text_faithful
  · exact defaulted_faithful _ _ _ _ texts_faithful

theorem dependency_faithful : dependency.Faithful := by
  refine Fields.codec_faithful _ _ ⟨?_, ?_, trivial⟩ (by decide) (fun _ => rfl)
  · exact required_faithful _ _ _ Codec.text_faithful
  · exact required_faithful _ _ _ Codec.text_faithful

theorem topology_faithful : topology.Faithful := by
  refine Fields.codec_faithful _ _ ⟨?_, ?_, ?_, ?_, ?_, ?_, ?_, trivial⟩ (by decide) (fun _ => rfl)
  · exact required_faithful _ _ _ Codec.text_faithful
  · exact defaulted_faithful _ _ _ _ Codec.text_faithful
  · exact defaulted_faithful _ _ _ _ (Codec.names_faithful _ node_template_faithful)
  · exact defaulted_faithful _ _ _ _ (Codec.names_faithful _ node_type_faithful)
  · exact defaulted_faithful _ _ _ _ (Codec.names_faithful _ relationship_type_faithful)
  · exact defaulted_faithful _ _ _ _ (Codec.names_faithful _ capability_type_faithful)
  · exact defaulted_faithful _ _ _ _ (Codec.list_faithful _ dependency_faithful)

theorem target_query_faithful : targetQuery.Faithful := by
  refine Fields.codec_faithful _ _ ⟨?_, ?_, ?_, ?_, ?_, ?_, ?_, ?_, ?_, trivial⟩ (by decide)
    (fun _ => rfl)
  · exact required_faithful _ _ _ Codec.text_faithful
  · exact required_faithful _ _ _ requirement_faithful
  · exact required_faithful _ _ _ Codec.text_faithful
  · exact required_faithful _ _ _ (Codec.names_faithful _ node_template_faithful)
  · exact required_faithful _ _ _ (Codec.names_faithful _ node_type_faithful)
  · exact required_faithful _ _ _ (Codec.names_faithful _ relationship_type_faithful)
  · exact required_faithful _ _ _ (Codec.names_faithful _ capability_type_faithful)
  · exact required_faithful _ _ _ (Codec.list_faithful _ dependency_faithful)
  · exact optionally_faithful _ _ _ Codec.text_faithful nofun

theorem matched_capability_faithful : matchedCapability.Faithful := by
  refine Fields.codec_faithful _ _ ⟨?_, ?_, trivial⟩ (by decide) (fun _ => rfl)
  · exact required_faithful _ _ _ Codec.text_faithful
  · exact required_faithful _ _ _ Codec.text_faithful

theorem target_template_faithful : targetTemplate.Faithful := by
  refine Fields.codec_faithful _ _ ⟨?_, trivial⟩ (by decide) (fun _ => rfl)
  exact required_faithful _ _ _ Codec.text_faithful

theorem target_match_faithful : targetMatch.Faithful := by
  refine Fields.codec_faithful _ _ ⟨?_, ?_, trivial⟩ (by decide) (fun _ => rfl)
  · exact required_faithful _ _ _ target_template_faithful
  · exact required_faithful _ _ _ (Codec.list_faithful _ matched_capability_faithful)

-- The second spelling of the preferred match is a name that no other field goes by.
theorem resolved_targets_faithful : resolvedTargets.Faithful := by
  refine Fields.codec_faithful _ _ ⟨?_, ?_, ?_, trivial⟩ (by decide) (fun _ => rfl)
  · exact defaulted_faithful _ _ _ _ (Codec.list_faithful _ target_match_faithful)
  · exact nullable_faithful _ _ _ relationship_type_faithful nofun
  · exact ⟨Codec.optional_faithful _ target_match_faithful nofun, nofun⟩

theorem relationship_choice_faithful : relationshipChoice.Faithful := by
  refine Fields.codec_faithful _ _ ⟨?_, ?_, ?_, ?_, trivial⟩ (by decide) (fun _ => rfl)
  · exact nullable_in_place_faithful _ _ _ relationship_type_faithful nofun
  · exact nullable_in_place_faithful _ _ _ Codec.text_faithful nofun
  · exact nullable_in_place_faithful _ _ _ Codec.text_faithful nofun
  · exact nullable_in_place_faithful _ _ _ Codec.text_faithful nofun

theorem hidden_filter_faithful : hiddenFilter.Faithful := by
  refine Fields.codec_faithful _ _ ⟨?_, ?_, trivial⟩ (by decide) (fun _ => rfl)
  · exact required_faithful _ _ _ Codec.text_faithful
  · exact required_faithful _ _ _ texts_faithful

theorem lifecycle_state_faithful : lifecycleState.Faithful := .state

theorem state_selection_faithful : stateSelection.Faithful := by
  refine Fields.codec_faithful _ _ ⟨?_, ?_, trivial⟩ (by decide) (fun _ => rfl)
  · exact required_faithful _ _ _ Codec.text_faithful
  · exact required_faithful _ _ _ lifecycle_state_faithful

namespace Codec

def rewrite? (codec : Codec α) (write : α → String) (text : String) : Option String :=
  (codec.decode? text).map write

structure RoundTrips (codec : Codec α) : Prop where
  compact : ∀ value, codec.decode? (codec.encode value) = some value
  indented : ∀ value, codec.decode? (codec.encodeIndented value) = some value
  printed : ∀ value, codec.decode? (codec.encodeIndented value ++ "\n") = some value
  settled : ∀ text, (codec.rewrite? codec.encode text).bind (codec.rewrite? codec.encode) =
    codec.rewrite? codec.encode text
  settledIndented : ∀ text,
    (codec.rewrite? codec.encodeIndented text).bind (codec.rewrite? codec.encodeIndented) =
      codec.rewrite? codec.encodeIndented text

theorem decode_encode (codec : Codec α) (faithful : codec.Faithful) (value : α) :
    codec.decode? (codec.encode value) = some value := by
  rw [decode?, encode, Json.read_compact]
  exact gives_read codec _ value (faithful value)

theorem decode_indented (codec : Codec α) (faithful : codec.Faithful) (value : α) :
    codec.decode? (codec.encodeIndented value) = some value := by
  rw [decode?, encodeIndented, Json.read_indented]
  exact gives_read codec _ value (faithful value)

theorem rewrite_settled (codec : Codec α) (write : α → String)
    (inverse : ∀ value, codec.decode? (write value) = some value) (text : String) :
    (codec.rewrite? write text).bind (codec.rewrite? write) = codec.rewrite? write text := by
  rw [rewrite?]
  cases codec.decode? text with
  | none => rfl
  | some value =>
      rw [Option.map_some, Option.bind_some, rewrite?, inverse, Option.map_some]

theorem faithful_round_trips (codec : Codec α) (faithful : codec.Faithful) : codec.RoundTrips where
  compact := codec.decode_encode faithful
  indented := codec.decode_indented faithful
  printed := decode_indented_line codec faithful
  settled := codec.rewrite_settled _ (codec.decode_encode faithful)
  settledIndented := codec.rewrite_settled _ (codec.decode_indented faithful)

end Codec

/-- What a resolver at the far end makes of a request: the query is read from the body, and the
answer to it is written. -/
def served? (write : ResolvedTargets → String) (body : String) : Option String := do
  return write (← targetQuery.decode? body).resolve

theorem served_answer (write : ResolvedTargets → String)
    (inverse : ∀ answer, resolvedTargets.decode? (write answer) = some answer)
    (query : TargetQuery) :
    (served? write (requestBody query)).bind resolvedTargets.decode? = some query.resolve := by
  have asked := targetQuery.decode_encode target_query_faithful query
  rw [served?, requestBody, asked, Option.bind_eq_bind, Option.bind_some]
  exact inverse query.resolve

theorem documents_round_trip :
    topology.RoundTrips ∧ targetQuery.RoundTrips ∧ resolvedTargets.RoundTrips ∧
      relationshipChoice.RoundTrips ∧ relationshipDescriptor.RoundTrips ∧
      hiddenFilter.RoundTrips ∧ stateSelection.RoundTrips ∧ stateOutcome.RoundTrips ∧
      relationshipOutcome.RoundTrips ∧
      ∀ query : TargetQuery,
        (served? resolvedTargets.encode (requestBody query)).bind resolvedTargets.decode? =
            some query.resolve ∧
          (served? resolvedTargets.encodeIndented (requestBody query)).bind
              resolvedTargets.decode? =
            some query.resolve := by
  have answers := resolvedTargets.faithful_round_trips resolved_targets_faithful
  refine ⟨topology.faithful_round_trips topology_faithful,
    targetQuery.faithful_round_trips target_query_faithful, answers,
    relationshipChoice.faithful_round_trips relationship_choice_faithful,
    relationshipDescriptor.faithful_round_trips relationship_descriptor_faithful,
    hiddenFilter.faithful_round_trips hidden_filter_faithful,
    stateSelection.faithful_round_trips state_selection_faithful,
    stateOutcome.faithful_round_trips (outcome_faithful _ state_selection_faithful),
    relationshipOutcome.faithful_round_trips (outcome_faithful _ relationship_descriptor_faithful),
    ?_⟩
  intro query
  constructor
  · exact served_answer _ answers.compact query
  · exact served_answer _ answers.indented query

end Wiring.Document
