import Wiring.TypeHierarchy

/-!
The search for an ancestor ends, and it finds exactly the ancestors. What bounds it
is the number of types that wait and of parents that are still to be listed. What it
keeps is that every type looked into has its parents looked into or waiting, so a way
up to the wanted type that starts anywhere in the search leads through a type that
waits.
-/

namespace Wiring

variable (types : NameMap CapabilityType) (wanted : String)

theorem parents_iff (type parent : String) :
    parent ∈ parentsOf types type ↔ IsParent types type parent := by
  unfold parentsOf IsParent
  cases types.find? type <;> simp

def unlisted (visited : List String) (entries : List (String × CapabilityType)) : List String :=
  entries.flatMap fun entry => if entry.1 ∈ visited then [] else entry.2.derivedFrom

theorem unlisted_foreign (visited : List String) (type : String)
    (entries : List (String × CapabilityType)) (foreign : ∀ entry ∈ entries, type ≠ entry.1) :
    unlisted (type :: visited) entries = unlisted visited entries := by
  induction entries with
  | nil => rfl
  | cons first rest ih =>
      have here := foreign first List.mem_cons_self
      have others := ih fun entry later => foreign entry (List.mem_cons_of_mem first later)
      simp only [unlisted, List.flatMap_cons, List.mem_cons, here.symm, false_or] at others ⊢
      rw [others]

theorem unlisted_visited (visited : List String) (type : String)
    (entries : List (String × CapabilityType)) (ordered : InNameOrder entries)
    (fresh : type ∉ visited) :
    (unlisted (type :: visited) entries).length +
        ((entries.lookup type).elim [] CapabilityType.derivedFrom).length =
      (unlisted visited entries).length := by
  induction entries with
  | nil => rfl
  | cons first rest ih =>
      obtain ⟨name, entry⟩ := first
      obtain ⟨below, tail⟩ := List.pairwise_cons.mp ordered
      by_cases same : type = name
      · subst same
        have others := unlisted_foreign visited type rest fun entry later same =>
          String.lt_irrefl type (same ▸ below entry later)
        simp only [unlisted, List.flatMap_cons, List.mem_cons, true_or, if_true, fresh, if_false,
          List.lookup_cons_self, Option.elim_some, List.nil_append, List.length_append] at others ⊢
        rw [others, Nat.add_comm]
      · have deeper := ih tail
        simp only [unlisted, List.flatMap_cons, List.mem_cons, Ne.symm same, false_or,
          List.lookup_cons, beq_false_of_ne same, List.length_append] at deeper ⊢
        omega

namespace AncestorSearch

/-- The types that wait, and the parents that may still come to wait. -/
def weight (search : AncestorSearch) : Nat :=
  search.pending.length + (unlisted search.visited types.entries).length

/-- A round that goes on takes the next type off those that wait, which is not the wanted one. If it
has not been looked into, its parents wait in its place. -/
theorem round_goes (search next : AncestorSearch) (goes : search.round types wanted = .inr next) :
    ∃ type pending, search.pending = type :: pending ∧ type ≠ wanted ∧
      (type ∈ search.visited ∧ next = ⟨pending, search.visited⟩ ∨
        type ∉ search.visited ∧
          next = ⟨(parentsOf types type).reverse ++ pending, type :: search.visited⟩) := by
  obtain ⟨waiting, visited⟩ := search
  cases waiting with
  | nil => cases goes
  | cons type pending =>
      refine ⟨type, pending, rfl, ?_⟩
      by_cases met : type = wanted
      · simp [round, met] at goes
      · by_cases again : type ∈ visited
        · simp only [round, met, again, if_false, if_true, Sum.inr.injEq] at goes
          exact ⟨met, .inl ⟨again, goes.symm⟩⟩
        · simp only [round, met, again, if_false, Sum.inr.injEq] at goes
          exact ⟨met, .inr ⟨again, goes.symm⟩⟩

theorem round_lighter (search next : AncestorSearch)
    (goes : search.round types wanted = .inr next) : next.weight types < search.weight types := by
  obtain ⟨type, pending, waits, _, ⟨_, rfl⟩ | ⟨fresh, rfl⟩⟩ := round_goes types wanted _ next goes
  · simp only [weight, waits, List.length_cons]
    omega
  · have listed := unlisted_visited search.visited type types.entries types.ordered fresh
    simp only [weight, waits, List.length_append, List.length_reverse, List.length_cons,
      parentsOf, NameMap.find?] at listed ⊢
    omega

/-- Every search ends, whatever waits and whatever has been looked into. -/
theorem run_ends (search : AncestorSearch) (rounds : Nat) (enough : search.weight types < rounds) :
    ∃ answer, search.run? types wanted rounds = some answer := by
  induction rounds generalizing search with
  | zero => omega
  | succ rounds ih =>
      cases goes : search.round types wanted with
      | inl answer => exact ⟨answer, by rw [run?, goes]⟩
      | inr next =>
          have lighter := round_lighter types wanted search next goes
          obtain ⟨answer, ends⟩ := ih next (by omega)
          refine ⟨answer, ?_⟩
          rw [run?, goes]
          exact ends

/-- A type looked into is not the wanted one, and its parents are looked into or wait. -/
def Settled (search : AncestorSearch) : Prop :=
  ∀ type ∈ search.visited, type ≠ wanted ∧
    ∀ parent, IsParent types type parent → parent ∈ search.visited ∨ parent ∈ search.pending

def Leads (search : AncestorSearch) : Prop :=
  ∃ type ∈ search.pending, Derives types type wanted

-- The induction is on the way up. It starts in the search and leaves what has been looked into at
-- the latest with the wanted type.
theorem settled_leads (search : AncestorSearch) (settled : search.Settled types wanted)
    (type : String) (path : Derives types type wanted)
    (known : type ∈ search.visited ∨ type ∈ search.pending) : search.Leads types wanted := by
  induction path with
  | self type =>
      rcases known with visited | waits
      · exact absurd rfl (settled type visited).1
      · exact ⟨type, waits, .self type⟩
  | @parent type parent wanted listed path ih =>
      rcases known with visited | waits
      · exact ih settled ((settled type visited).2 parent listed)
      · exact ⟨type, waits, .parent listed path⟩

theorem settled_drop (type : String) (pending visited : List String) (again : type ∈ visited)
    (settled : Settled types wanted ⟨type :: pending, visited⟩) :
    Settled types wanted ⟨pending, visited⟩ := by
  intro other before
  obtain ⟨different, parents⟩ := settled other before
  refine ⟨different, fun parent listed => ?_⟩
  rcases parents parent listed with looked | waits
  · exact .inl looked
  · rcases List.mem_cons.mp waits with rfl | later
    · exact .inl again
    · exact .inr later

theorem settled_expand (type : String) (pending visited : List String) (unmet : type ≠ wanted)
    (settled : Settled types wanted ⟨type :: pending, visited⟩) :
    Settled types wanted ⟨(parentsOf types type).reverse ++ pending, type :: visited⟩ := by
  intro other before
  rcases List.mem_cons.mp before with rfl | before
  · refine ⟨unmet, fun parent listed => .inr (List.mem_append_left _ ?_)⟩
    exact List.mem_reverse.mpr ((parents_iff types other parent).mpr listed)
  · obtain ⟨different, parents⟩ := settled other before
    refine ⟨different, fun parent listed => ?_⟩
    rcases parents parent listed with looked | waits
    · exact .inl (List.mem_cons_of_mem type looked)
    · rcases List.mem_cons.mp waits with rfl | later
      · exact .inl List.mem_cons_self
      · exact .inr (List.mem_append_right _ later)

theorem round_keeps (search next : AncestorSearch) (settled : search.Settled types wanted)
    (goes : search.round types wanted = .inr next) :
    next.Settled types wanted ∧ (next.Leads types wanted ↔ search.Leads types wanted) := by
  obtain ⟨waiting, visited⟩ := search
  obtain ⟨type, pending, rfl, unmet, step⟩ := round_goes types wanted _ next goes
  have still : next.Settled types wanted := by
    rcases step with ⟨again, rfl⟩ | ⟨_, rfl⟩
    · exact settled_drop types wanted type pending visited again settled
    · exact settled_expand types wanted type pending visited unmet settled
  refine ⟨still, ?_, ?_⟩
  · rintro ⟨other, waits, path⟩
    rcases step with ⟨_, rfl⟩ | ⟨_, rfl⟩
    · exact ⟨other, List.mem_cons_of_mem type waits, path⟩
    · rcases List.mem_append.mp waits with risen | later
      · have listed := (parents_iff types type other).mp (List.mem_reverse.mp risen)
        exact ⟨type, List.mem_cons_self, .parent listed path⟩
      · exact ⟨other, List.mem_cons_of_mem type later, path⟩
  · rintro ⟨other, waits, path⟩
    refine settled_leads types wanted next still other path ?_
    rcases step with ⟨again, rfl⟩ | ⟨_, rfl⟩
    · rcases List.mem_cons.mp waits with rfl | later
      · exact .inl again
      · exact .inr later
    · rcases List.mem_cons.mp waits with rfl | later
      · exact .inl List.mem_cons_self
      · exact .inr (List.mem_append_right _ later)

theorem round_answers (search : AncestorSearch) (answer : Bool)
    (ends : search.round types wanted = .inl answer) :
    answer = true ↔ search.Leads types wanted := by
  unfold round at ends
  split at ends
  · rename_i empty
    cases ends
    simp [Leads, empty]
  · rename_i type pending waits
    split at ends
    · rename_i met
      cases ends
      refine iff_of_true rfl ⟨type, ?_, met ▸ .self type⟩
      rw [waits]
      exact List.mem_cons_self
    · split at ends <;> cases ends

theorem run_answers (search : AncestorSearch) (settled : search.Settled types wanted)
    (rounds : Nat) (answer : Bool) (ends : search.run? types wanted rounds = some answer) :
    answer = true ↔ search.Leads types wanted := by
  induction rounds generalizing search with
  | zero => cases ends
  | succ rounds ih =>
      cases goes : search.round types wanted with
      | inl final =>
          rw [run?, goes] at ends
          cases ends
          exact round_answers types wanted search answer goes
      | inr next =>
          rw [run?, goes] at ends
          obtain ⟨still, same⟩ := round_keeps types wanted search next settled goes
          exact (ih next still ends).trans same

end AncestorSearch

theorem start_weight (type : String) :
    AncestorSearch.weight types { pending := [type] } + 1 = searchRounds types := by
  simp only [AncestorSearch.weight, searchRounds, unlisted, NameMap.values, List.flatMap_map,
    List.not_mem_nil, if_false, List.length_singleton]
  omega

theorem search_ends (type : String) (rounds : Nat) (enough : searchRounds types ≤ rounds) :
    ∃ answer, AncestorSearch.run? types wanted rounds { pending := [type] } = some answer ∧
      (answer = true ↔ Derives types type wanted) := by
  have weight := start_weight types type
  obtain ⟨answer, ends⟩ := AncestorSearch.run_ends types wanted { pending := [type] } rounds
    (by omega)
  refine ⟨answer, ends, ?_⟩
  have found := AncestorSearch.run_answers types wanted { pending := [type] } nofun rounds answer
    ends
  simpa only [AncestorSearch.Leads, List.mem_singleton, exists_eq_left] using found

theorem derives_from_iff (types : NameMap CapabilityType) (type wanted : String) :
    derivesFrom types type wanted = true ↔ Derives types type wanted := by
  obtain ⟨answer, ends, found⟩ := search_ends types wanted type (searchRounds types)
    (Nat.le_refl _)
  rw [derivesFrom, ends]
  exact found

structure AncestorChain (type wanted : String) (length : Nat) (chain : Nat → String) : Prop where
  first : chain 0 = type
  last : chain length = wanted
  parents : ∀ place < length, IsParent types (chain place) (chain (place + 1))

theorem chain_derives (type : String) (length : Nat) (chain : Nat → String)
    (up : AncestorChain types type wanted length chain) : Derives types type wanted := by
  obtain ⟨rfl, rfl, parents⟩ := up
  induction length generalizing chain with
  | zero => exact .self _
  | succ length ih =>
      have first := parents 0 (Nat.zero_lt_succ length)
      have others := ih (fun place => chain (place + 1)) fun place inside =>
        parents (place + 1) (Nat.succ_lt_succ inside)
      exact .parent first others

theorem derives_chain (type : String) (path : Derives types type wanted) :
    ∃ length chain, AncestorChain types type wanted length chain := by
  induction path with
  | self type => exact ⟨0, fun _ => type, rfl, rfl, nofun⟩
  | @parent type parent wanted listed _ ih =>
      obtain ⟨length, chain, rfl, last, parents⟩ := ih
      refine ⟨length + 1, fun place => Nat.casesOn place type chain, rfl, last, ?_⟩
      intro place inside
      cases place with
      | zero => exact listed
      | succ place => exact parents place (Nat.lt_of_succ_lt_succ inside)

/-- The search ends, in no more rounds than the table affords, and it says yes exactly if there is a
chain of parents from the type up to the wanted one. -/
theorem ancestor_search_exact (type : String) :
    ∃ answer, derivesFrom types type wanted = answer ∧
      (∀ rounds, searchRounds types ≤ rounds →
        AncestorSearch.run? types wanted rounds { pending := [type] } = some answer) ∧
      (answer = true ↔ ∃ length chain, AncestorChain types type wanted length chain) := by
  have found := derives_from_iff types type wanted
  refine ⟨derivesFrom types type wanted, rfl, ?_, ?_, ?_⟩
  · intro rounds enough
    obtain ⟨answer, ends, exact⟩ := search_ends types wanted type rounds enough
    rw [ends, Bool.eq_iff_iff.mpr (exact.trans found.symm)]
  · intro yes
    exact derives_chain types wanted type (found.mp yes)
  · rintro ⟨length, chain, up⟩
    exact found.mpr (chain_derives types wanted type length chain up)

def tangled : NameMap CapabilityType := .ofList [
  ("app", { elementId := "other", derivedFrom := ["web", "web", "lost"] }),
  ("web", { elementId := "web", derivedFrom := ["app", "web", "node"] })]

example : derivesFrom tangled "app" "node" = true ∧ derivesFrom tangled "node" "app" = false := by
  decide

end Wiring
