/-!
How a dialog ends: it signals a result or none to a modal. A slot is a modal that
keeps the first signal it is given until that is taken.
-/

namespace Wiring

inductive Outcome (α : Type) where
  | closed (result : α)
  | dismissed (reason : String)
  deriving DecidableEq, Repr, Inhabited

def cancelReason : String := "cancel"

class Modal (μ : Type) (α : outParam Type) where
  close : μ → α → μ
  dismiss : μ → String → μ

structure OutcomeSlot (α : Type) where
  outcome : Option (Outcome α) := none
  deriving DecidableEq, Repr, Inhabited

namespace OutcomeSlot

def signal (slot : OutcomeSlot α) (outcome : Outcome α) : OutcomeSlot α :=
  ⟨slot.outcome.or (some outcome)⟩

def close (slot : OutcomeSlot α) (result : α) : OutcomeSlot α :=
  slot.signal (.closed result)

def dismiss (slot : OutcomeSlot α) (reason : String) : OutcomeSlot α :=
  slot.signal (.dismissed reason)

instance : Modal (OutcomeSlot α) α := ⟨close, dismiss⟩

def take (slot : OutcomeSlot α) : Option (Outcome α) × OutcomeSlot α :=
  (slot.outcome, {})

end OutcomeSlot

end Wiring
