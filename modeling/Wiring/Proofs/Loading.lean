import Wiring.Proofs.Landing
import Wiring.TopologyFile

/-!
Which topologies load. A document of a consistent topology is loaded as just that
topology. Of any other one the first relationship that leads nowhere is reported, in
the order of the sources and then of the names that they give their relationships.
-/

namespace Wiring

/-- A search along entries in order finds what it finds under the least name that it finds anything
under. -/
theorem find_some_first_iff (report : String × α → Option β) (entries : List (String × α))
    (ordered : InNameOrder entries) (result : β) :
    entries.findSome? report = some result ↔
      ∃ name value, (name, value) ∈ entries ∧ report (name, value) = some result ∧
        ∀ entry ∈ entries, entry.1 < name → report entry = none := by
  induction entries with
  | nil => simp
  | cons first rest ih =>
      obtain ⟨below, tail⟩ := List.pairwise_cons.mp ordered
      cases here : report first with
      | some found =>
          simp only [List.findSome?_cons, here, Option.some.injEq]
          constructor
          · rintro rfl
            refine ⟨first.1, first.2, List.mem_cons_self, here, ?_⟩
            intro entry member earlier
            rcases List.mem_cons.mp member with rfl | later
            · exact absurd earlier (String.lt_irrefl _)
            · exact absurd (String.lt_trans earlier (below entry later)) (String.lt_irrefl _)
          · rintro ⟨name, value, member, reported, least⟩
            rcases List.mem_cons.mp member with rfl | later
            · exact Option.some.inj (here.symm.trans reported)
            · have silent := least first List.mem_cons_self (below _ later)
              cases here.symm.trans silent
      | none =>
          simp only [List.findSome?_cons, here, ih tail]
          constructor
          · rintro ⟨name, value, member, reported, least⟩
            refine ⟨name, value, List.mem_cons_of_mem first member, reported, ?_⟩
            intro entry among earlier
            rcases List.mem_cons.mp among with rfl | later
            · exact here
            · exact least entry later earlier
          · rintro ⟨name, value, member, reported, least⟩
            rcases List.mem_cons.mp member with rfl | later
            · cases here.symm.trans reported
            · refine ⟨name, value, later, reported, ?_⟩
              intro entry among
              exact least entry (List.mem_cons_of_mem first among)

theorem NameMap.find_some_first_iff (map : NameMap α) (report : String × α → Option β)
    (result : β) :
    map.entries.findSome? report = some result ↔
      ∃ name value, map.find? name = some value ∧ report (name, value) = some result ∧
        ∀ other kept, map.find? other = some kept → other < name → report (other, kept) = none := by
  simp only [Wiring.find_some_first_iff report map.entries map.ordered, ← mem_entries_iff,
    Prod.forall]

def Topology.Relates (topology : Topology) (source name : String) (relationship : Relationship) :
    Prop :=
  ∃ template, topology.nodeTemplates.find? source = some template ∧
    template.relationships.find? name = some relationship

inductive Relationship.Fails (relationship : Relationship) (templates : NameMap NodeTemplate)
    (source name : String) : Dangling → String → Prop where
  | template (missing : templates.find? relationship.target = none) :
      Fails relationship templates source name
        (.unknownTemplate source name relationship.target)
        s!"Relationship {source}.{name} targets unknown node template {relationship.target}"
  | capability (target : NodeTemplate) (capability : String)
      (found : templates.find? relationship.target = some target)
      (named : relationship.targetedCapabilityName = some capability)
      (lacking : target.capabilities.find? capability = none) :
      Fails relationship templates source name
        (.unknownCapability source name relationship.target capability)
        s!"Relationship {source}.{name} targets unknown capability {relationship.target}.{capability}"

/-- The cause is the first relationship that leads nowhere; all before it land. -/
def Topology.Blames (topology : Topology) (cause : Dangling) (text : String) : Prop :=
  ∃ source name relationship, topology.Relates source name relationship ∧
    relationship.Fails topology.nodeTemplates source name cause text ∧
    ∀ other title kept, topology.Relates other title kept →
      other < source ∨ other = source ∧ title < name → kept.Lands topology.nodeTemplates

theorem dangling_some_iff (relationship : Relationship) (templates : NameMap NodeTemplate)
    (source name : String) (cause : Dangling) :
    relationship.dangling? templates source name = some cause ↔
      relationship.Fails templates source name cause cause.message := by
  unfold Relationship.dangling?
  constructor
  · intro reported
    cases found : templates.find? relationship.target with
    | none =>
        rw [found] at reported
        cases reported
        exact .template found
    | some target =>
        cases named : relationship.targetedCapabilityName with
        | none => simp [found, named] at reported
        | some capability =>
            simp only [found, named, NameMap.contains] at reported
            cases lacking : target.capabilities.find? capability with
            | some offered => simp [lacking] at reported
            | none =>
                simp only [lacking, Option.isSome_none, Bool.false_eq_true, if_false,
                  Option.some.injEq] at reported
                subst reported
                exact .capability target capability found named lacking
  · intro fails
    cases fails with
    | template missing => rw [missing]
    | capability target capability found named lacking =>
        simp [found, named, NameMap.contains, lacking]

theorem source_silent_iff (topology : Topology) (source : String) (template : NodeTemplate)
    (found : topology.nodeTemplates.find? source = some template) :
    (template.relationships.entries.findSome? fun (name, relationship) =>
        relationship.dangling? topology.nodeTemplates source name) = none ↔
      ∀ name relationship, topology.Relates source name relationship →
        relationship.Lands topology.nodeTemplates := by
  rw [List.findSome?_eq_none_iff]
  constructor
  · rintro silent name relationship ⟨other, foundOther, kept⟩
    cases found.symm.trans foundOther
    have member := (NameMap.mem_entries_iff _ _ _).mpr kept
    exact (dangling_none_iff _ _ _ _).mp (silent (name, relationship) member)
  · rintro land ⟨name, relationship⟩ member
    have kept := (NameMap.mem_entries_iff _ _ _).mp member
    exact (dangling_none_iff _ _ _ _).mpr (land name relationship ⟨template, found, kept⟩)

/-- The check reports what the topology is to blame for, and nothing else. -/
theorem first_dangling_iff (topology : Topology) (cause : Dangling) :
    topology.firstDangling? = some cause ↔ topology.Blames cause cause.message := by
  unfold Topology.firstDangling?
  rw [NameMap.find_some_first_iff]
  constructor
  · rintro ⟨source, template, found, inside, before⟩
    obtain ⟨name, relationship, kept, reported, above⟩ :=
      (NameMap.find_some_first_iff _ _ _).mp inside
    refine ⟨source, name, relationship, ⟨template, found, kept⟩,
      (dangling_some_iff _ _ _ _ _).mp reported, ?_⟩
    rintro other title another ⟨node, foundNode, within⟩ (earlier | ⟨rfl, earlier⟩)
    · have silent := before other node foundNode earlier
      exact (source_silent_iff topology other node foundNode).mp silent title another
        ⟨node, foundNode, within⟩
    · cases found.symm.trans foundNode
      exact (dangling_none_iff _ _ _ _).mp (above title another within earlier)
  · rintro ⟨source, name, relationship, ⟨template, found, kept⟩, fails, first⟩
    refine ⟨source, template, found, ?_, ?_⟩
    · apply (NameMap.find_some_first_iff _ _ _).mpr
      refine ⟨name, relationship, kept, (dangling_some_iff _ _ _ _ _).mpr fails, ?_⟩
      intro title another within earlier
      exact (dangling_none_iff _ _ _ _).mpr
        (first source title another ⟨template, found, within⟩ (.inr ⟨rfl, earlier⟩))
    · intro other node foundNode earlier
      apply (source_silent_iff topology other node foundNode).mpr
      intro title another relates
      exact first other title another relates (.inl earlier)

theorem blames_iff (topology : Topology) (cause : Dangling) (text : String) :
    topology.Blames cause text ↔ topology.firstDangling? = some cause ∧ cause.message = text := by
  rw [first_dangling_iff]
  constructor
  · intro blames
    have told : cause.message = text := by
      obtain ⟨_, _, _, _, fails, _⟩ := blames
      cases fails <;> rfl
    exact ⟨told ▸ blames, told⟩
  · rintro ⟨blames, rfl⟩
    exact blames

theorem consistent_iff (topology : Topology) :
    topology.Consistent ↔ ∀ source name relationship,
      topology.Relates source name relationship → ∃ target,
        topology.nodeTemplates.find? relationship.target = some target ∧
        ∀ capability, relationship.targetedCapabilityName = some capability →
          target.capabilities.contains capability = true := by
  constructor
  · rintro consistent source name relationship ⟨template, found, kept⟩
    exact consistent_lands topology consistent source name template relationship found kept
  · intro land template templateMember relationship member
    obtain ⟨source, found⟩ := (NameMap.mem_values_iff _ _).mp templateMember
    obtain ⟨name, kept⟩ := (NameMap.mem_values_iff _ _).mp member
    exact land source name relationship ⟨template, found, kept⟩

namespace TopologyFile

theorem utf8_text (text : String) : String.fromUTF8? text.toUTF8 = some text :=
  dif_pos text.isValidUTF8

theorem load_decoded (bytes : ByteArray) (text : String) (topology : Topology)
    (encoded : String.fromUTF8? bytes = some text)
    (decoded : Yaml.decode? Document.topology text = some topology) :
    load (some bytes) = checked topology := by
  simp only [load, encoded, ofText, decoded]

theorem inconsistent_message (id path : String) (cause : Dangling) :
    (LoadError.inconsistent id cause).message path =
      s!"Topology {id} loaded from {path} is inconsistent: {cause.message}" := by
  have joined : " is inconsistent" ++ ": " = " is inconsistent: " := by decide
  change s!"Topology {id} loaded from {path} is inconsistent" ++ ": " ++ cause.message = _
  simp only [toString, String.append_assoc, ← joined]

/-- A document is loaded as the topology that it says, if each relationship in it leads to a template
and to a capability of that template, where it names one. If one does not, the first such
relationship is reported. -/
theorem loads_what_lands (bytes : ByteArray) (text : String) (topology : Topology)
    (encoded : String.fromUTF8? bytes = some text)
    (decoded : Yaml.decode? Document.topology text = some topology) :
    (∀ loaded, load (some bytes) = .ok loaded ↔
      loaded = topology ∧ ∀ source name relationship,
        topology.Relates source name relationship → ∃ target,
          topology.nodeTemplates.find? relationship.target = some target ∧
          ∀ capability, relationship.targetedCapabilityName = some capability →
            target.capabilities.contains capability = true) ∧
      ∀ error, load (some bytes) = .error error ↔
        ∃ cause text, error = .inconsistent topology.id cause ∧ topology.Blames cause text ∧
          ∀ path, error.message path =
            s!"Topology {topology.id} loaded from {path} is inconsistent: {text}" := by
  simp only [load_decoded bytes text topology encoded decoded, ← consistent_iff,
    ← first_dangling_none_iff, checked]
  cases reported : topology.firstDangling? with
  | none =>
      constructor
      · intro loaded
        simp [eq_comm]
      · intro error
        refine ⟨nofun, ?_⟩
        rintro ⟨cause, text, _, blames, _⟩
        obtain ⟨found, _⟩ := (blames_iff topology cause text).mp blames
        cases reported.symm.trans found
  | some cause =>
      constructor
      · intro loaded
        simp
      · intro error
        constructor
        · rintro ⟨rfl⟩
          exact ⟨cause, cause.message, rfl, (first_dangling_iff topology cause).mp reported,
            fun path => inconsistent_message topology.id path cause⟩
        · rintro ⟨other, text, rfl, blames, _⟩
          obtain ⟨found, _⟩ := (blames_iff topology other text).mp blames
          cases reported.symm.trans found
          rfl

def crookedFile : String :=
  "id: web
nodeTemplates:
 app:
  type: war
  relationships:
   on:
    type: r
    target: vm
    requirementName: on
    targetedCapabilityName: slot
 vm:
  type: vm
  relationships:
   in:
    type: r
    target: rack
    requirementName: in
"

def crooked : Topology where
  id := "web"
  nodeTemplates := .ofList [
    ("app", {
      type := "war"
      relationships := .ofList [
        ("on", {
          type := "r", target := "vm", requirementName := "on"
          targetedCapabilityName := some "slot" })] }),
    ("vm", {
      type := "vm"
      relationships := .ofList [
        ("in", { type := "r", target := "rack", requirementName := "in" })] })]

theorem crooked_refused :
    Yaml.decode? Document.topology crookedFile = some crooked ∧
      load (some crookedFile.toUTF8) =
        .error (.inconsistent "web" (.unknownCapability "app" "on" "vm" "slot")) := by
  have decoded : Yaml.decode? Document.topology crookedFile = some crooked := by decide +kernel
  have first : crooked.firstDangling? = some (.unknownCapability "app" "on" "vm" "slot") := by
    decide
  refine ⟨decoded, ((loads_what_lands _ crookedFile crooked (utf8_text crookedFile) decoded).2
    _).mpr ⟨_, _, rfl, (first_dangling_iff crooked _).mp first, fun path => ?_⟩⟩
  exact inconsistent_message "web" path _

end TopologyFile

end Wiring
