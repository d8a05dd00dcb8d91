import Wiring.Topology

/-!
A capability type lists its parents, and a capability of a derived type serves
wherever an ancestor is required. `Derives` says so by rules; `derivesFrom`
decides it by a search in depth that remembers the types it has looked into, so
that cycles of types do not hold it up.
-/

namespace Wiring

/-- The parents listed in the entry under `type`, whatever identifier the entry has. -/
def IsParent (types : NameMap CapabilityType) (type parent : String) : Prop :=
  ∃ entry, types.find? type = some entry ∧ parent ∈ entry.derivedFrom

inductive Derives (types : NameMap CapabilityType) : String → String → Prop where
  | self (type : String) : Derives types type type
  | parent {type parent ancestor : String} :
      IsParent types type parent → Derives types parent ancestor → Derives types type ancestor

def parentsOf (types : NameMap CapabilityType) (type : String) : List String :=
  (types.find? type).elim [] CapabilityType.derivedFrom

structure AncestorSearch where
  pending : List String
  visited : List String := []
  deriving DecidableEq, Repr

namespace AncestorSearch

def round (types : NameMap CapabilityType) (wanted : String) (search : AncestorSearch) :
    Bool ⊕ AncestorSearch :=
  match search.pending with
  | [] => .inl false
  | type :: pending =>
      if type = wanted then .inl true
      -- A type can wait more than once: it is remembered only when its turn comes.
      else if type ∈ search.visited then .inr { search with pending }
      else .inr {
        pending := (parentsOf types type).reverse ++ pending
        visited := type :: search.visited }

def run? (types : NameMap CapabilityType) (wanted : String) : Nat → AncestorSearch → Option Bool
  | 0, _ => none
  | rounds + 1, search =>
      match search.round types wanted with
      | .inl answer => some answer
      | .inr next => run? types wanted rounds next

end AncestorSearch

/-- Rounds enough for every search that starts from one type: any other type waits because an
entry lists it, and each entry is looked into once. -/
def searchRounds (types : NameMap CapabilityType) : Nat :=
  (types.values.flatMap CapabilityType.derivedFrom).length + 2

def derivesFrom (types : NameMap CapabilityType) (type wanted : String) : Bool :=
  (AncestorSearch.run? types wanted (searchRounds types) { pending := [type] }).getD false

end Wiring
