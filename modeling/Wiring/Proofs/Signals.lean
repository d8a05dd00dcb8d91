import Wiring.Outcome

/-!
What the operations of a run give to a modal and what its host takes from it, told
for any step function. The account is balanced if every single step is. Where only the
step that ends a dialog signals, a run signals once, and the one signal is taken or
still there to be taken.
-/

namespace Wiring

instance : Modal (List (Outcome α)) α :=
  ⟨fun heard result => heard ++ [.closed result], fun heard reason => heard ++ [.dismissed reason]⟩

section

variable {σ κ β : Type} (step : σ → κ → σ)

def gathered (give : σ → κ → List β) : σ → List κ → List β
  | _, [] => []
  | state, action :: rest => give state action ++ gathered give (step state action) rest

theorem gathered_append (give : σ → κ → List β) (state : σ) (before after : List κ) :
    gathered step give state (before ++ after) =
      gathered step give state before ++ gathered step give (before.foldl step state) after := by
  induction before generalizing state with
  | nil => rfl
  | cons action rest ih =>
      rw [List.cons_append, gathered, ih, gathered, List.append_assoc, List.foldl_cons]

theorem gathered_concat (give : σ → κ → List β) (state : σ) (actions : List κ) (action : κ) :
    gathered step give state (actions ++ [action]) =
      gathered step give state actions ++ give (actions.foldl step state) action := by
  rw [gathered_append, gathered, gathered, List.append_nil]

-- What a step keeps is only there to make the account of the next one balance.
theorem gathered_balance (given taken : σ → κ → List β) (left : σ → List β) (kept : σ → Prop)
    (keeps : ∀ state action, kept state → kept (step state action))
    (balanced : ∀ state action, kept state →
      taken state action ++ left (step state action) = left state ++ given state action)
    (state : σ) (actions : List κ) (holds : kept state) :
    gathered step taken state actions ++ left (actions.foldl step state) =
      left state ++ gathered step given state actions := by
  induction actions generalizing state with
  | nil => simp [gathered]
  | cons action rest ih =>
      have first := balanced state action holds
      have behind := ih (step state action) (keeps state action holds)
      rw [gathered, gathered, List.append_assoc, List.foldl_cons, behind, ← List.append_assoc,
        first, List.append_assoc]

end

section

variable {σ κ α : Type} (step : σ → κ → σ) (closed : σ → Bool) (slot : σ → OutcomeSlot α)
  (signals takes : σ → κ → List (Outcome α))

inductive Announces (state : σ) (action : κ) : Prop where
  | ends {signal : Outcome α} (active : closed state = false)
      (final : closed (step state action) = true) (heard : signals state action = [signal])
      (untaken : takes state action = [])
      (reached : slot (step state action) = (slot state).signal signal)
  | passes (still : closed (step state action) = closed state) (silent : signals state action = [])
      (account : takes state action ++ (slot (step state action)).outcome.toList =
        (slot state).outcome.toList)

def Vacant (state : σ) : Prop :=
  closed state = false → (slot state).outcome = none

structure CutAt (state : σ) (before : List κ) (action : κ) (signal : Outcome α) : Prop where
  silent : gathered step signals state before = []
  heard : signals (before.foldl step state) action = [signal]
  final : closed (step (before.foldl step state) action) = true

variable {step closed slot signals takes}

theorem announces_vacant (state : σ) (action : κ)
    (announces : Announces step closed slot signals takes state action)
    (vacant : Vacant closed slot state) : Vacant closed slot (step state action) := by
  intro active
  cases announces with
  | ends _ final => cases active.symm.trans final
  | passes still _ account =>
      rw [vacant (still.symm.trans active), Option.toList_none] at account
      exact Option.toList_eq_nil_iff.mp (List.append_eq_nil_iff.mp account).2

/-- A slot loses no signal that reaches it empty. -/
theorem announces_balanced (state : σ) (action : κ)
    (announces : Announces step closed slot signals takes state action)
    (vacant : Vacant closed slot state) :
    takes state action ++ (slot (step state action)).outcome.toList =
      (slot state).outcome.toList ++ signals state action := by
  cases announces with
  | ends active _ heard untaken reached =>
      have empty := vacant active
      rw [heard, untaken, reached]
      simp only [OutcomeSlot.signal, empty, Option.none_or, Option.toList]
  | passes _ silent account => rw [silent, account, List.append_nil]

variable (announces : ∀ state action, Announces step closed slot signals takes state action)

include announces

theorem announced_taken (state : σ) (actions : List κ) (empty : (slot state).outcome = none) :
    gathered step takes state actions ++ (slot (actions.foldl step state)).outcome.toList =
      gathered step signals state actions := by
  have balance := gathered_balance step signals takes (fun current => (slot current).outcome.toList)
    (Vacant closed slot)
    (fun current action => announces_vacant current action (announces current action))
    (fun current action => announces_balanced current action (announces current action))
    state actions fun _ => empty
  rwa [empty, Option.toList_none, List.nil_append] at balance

theorem announced_final (state : σ) (actions : List κ) (final : closed state = true) :
    closed (actions.foldl step state) = true ∧ gathered step signals state actions = [] := by
  induction actions generalizing state with
  | nil => exact ⟨final, rfl⟩
  | cons action rest ih =>
      cases announces state action with
      | ends active => cases active.symm.trans final
      | passes still silent =>
          obtain ⟨behind, quiet⟩ := ih (step state action) (still.trans final)
          refine ⟨behind, ?_⟩
          rw [gathered, silent, quiet, List.append_nil]

theorem cut_final (state : σ) (before : List κ) (action : κ) (after : List κ) (signal : Outcome α)
    (cut : CutAt step closed signals state before action signal) :
    closed ((before ++ action :: after).foldl step state) = true ∧
      gathered step signals state (before ++ action :: after) = [signal] := by
  obtain ⟨behind, quiet⟩ := announced_final announces _ after cut.final
  constructor
  · rw [List.foldl_append]
    exact behind
  · rw [gathered_append, cut.silent, gathered, cut.heard, quiet]
    rfl

-- The induction is on the operations from the first one on: behind the end all is silent.
theorem announced_once (state : σ) (actions : List κ) (active : closed state = false) :
    closed (actions.foldl step state) = false ∧ gathered step signals state actions = [] ∨
      ∃ before action after signal, actions = before ++ action :: after ∧
        CutAt step closed signals state before action signal := by
  induction actions generalizing state with
  | nil => exact .inl ⟨active, rfl⟩
  | cons action rest ih =>
      cases announces state action with
      | ends _ final heard => exact .inr ⟨[], action, rest, _, rfl, rfl, heard, final⟩
      | passes still silent =>
          rcases ih (step state action) (still.trans active) with
            ⟨unclosed, quiet⟩ | ⟨before, last, after, signal, rfl, cut⟩
          · refine .inl ⟨unclosed, ?_⟩
            rw [gathered, silent, quiet, List.append_nil]
          · refine .inr ⟨action :: before, last, after, signal, rfl, ?_, cut.heard, cut.final⟩
            rw [gathered, silent, cut.silent, List.append_nil]

end

end Wiring
