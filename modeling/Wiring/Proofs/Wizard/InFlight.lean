import Mathlib.Data.List.Induction
import Wiring.Proofs.Wizard.Arrival

/-!
A resolution under way and the operations of a wizard, in any order. The wizard goes
on resolving until it is closed or an operation comes upon the end of the
resolution; that operation settles it, and no later one can.
-/

namespace Wiring

namespace Wizard

theorem apply_answer_pending (wizard : Wizard) (pending : Option Pending) (answer : Answer) :
    ({ wizard with pending } : Wizard).applyAnswer answer =
      ({ (wizard.applyAnswer answer).1 with pending }, (wizard.applyAnswer answer).2) := by
  unfold applyAnswer
  rw [closed_pending]
  cases wizard.closed with
  | true => rfl
  | false =>
      cases answer with
      | resolved resolved => simp only [Bool.false_eq_true, if_false, apply_resolved_pending]
      | failed contexts => rfl

theorem apply_resolved_keeps_pending (wizard : Wizard) (resolved : ResolvedTargets) :
    (wizard.applyResolved resolved).pending = wizard.pending := by
  rcases apply_resolved_cases wizard resolved with ⟨_, same⟩ | ⟨_, _, _, _, _, _, _, same⟩
  · rw [same]
    rfl
  · rw [same]
    rfl

theorem apply_answer_keeps_pending (wizard : Wizard) (answer : Answer) :
    (wizard.applyAnswer answer).1.pending = wizard.pending := by
  unfold applyAnswer
  cases wizard.closed with
  | true => rfl
  | false =>
      cases answer with
      | resolved resolved => exact apply_resolved_keeps_pending wizard resolved
      | failed contexts => rfl

theorem apply_ending_pending (wizard : Wizard) (ending : Ending) :
    (wizard.applyEnding ending).1.pending = none := by
  cases ending with
  | answered answer => exact apply_answer_keeps_pending { wizard with pending := none } answer
  | dropped => rfl

end Wizard

namespace WizardDialog

open Wizard

theorem step_keeps_pending (dialog : WizardDialog) (action : Action)
    (other : action ≠ .arrive) (unnoticed : dialog.wizard.noticed? action = none)
    (unended : ∀ status signal, ¬ dialog.Ends action status signal) :
    (dialog.step action).1.wizard.pending = dialog.wizard.pending := by
  by_cases choosing : action.choosing = true
  · rcases step_choosing dialog action choosing with ⟨after, chosen, same⟩ | ⟨error, same⟩
    · rw [same]
      cases chosen <;> rfl
    · rw [same]
  cases action with
  | selectRelationship | selectTarget | setName => exact absurd rfl choosing
  | next =>
      simp only [step, Wizard.next]
      split <;> rfl
  | back =>
      simp only [step, Wizard.back]
      split <;> rfl
  | finish =>
      cases finished : dialog.finish with
      | error error => simp only [step, finished]
      | ok after =>
          obtain ⟨active, _, complete, _⟩ := (finish_iff _ _).mp finished
          exact absurd (.finished active complete) (unended _ _)
  | cancel =>
      cases active : dialog.wizard.closed with
      | true => simp only [step, cancel, Wizard.cancel, active, if_true]
      | false => exact absurd (.cancelled active) (unended _ _)
  | take => rfl
  | arrive => exact absurd rfl other
  | poll =>
      rw [step_poll, poll_noticed, unnoticed]
      rfl
  | resolve =>
      rw [step_resolve, resolve_noticed, unnoticed]
      rfl
  | apply answer => exact apply_answer_keeps_pending dialog.wizard answer

theorem step_noticed (dialog : WizardDialog) (action : Action) (ending : Ending)
    (noticed : dialog.wizard.noticed? action = some ending) :
    (dialog.step action).1.wizard.pending = none := by
  cases action with
  | poll =>
      rw [step_poll, poll_noticed, noticed]
      exact apply_ending_pending dialog.wizard ending
  | resolve =>
      rw [step_resolve, resolve_noticed, noticed]
      exact apply_ending_pending dialog.wizard ending
  | _ => cases noticed

theorem step_gone (dialog : WizardDialog) (action : Action)
    (gone : dialog.wizard.pending = none) : (dialog.step action).1.wizard.pending = none := by
  rcases step_cases dialog action with ⟨status, signal, _, same⟩ | ⟨unended, _⟩
  · rw [same]
    rfl
  by_cases arrives : action = .arrive
  · subst arrives
    simp only [step, Wizard.arrive, gone, Option.map_none]
  · have unnoticed : dialog.wizard.noticed? action = none := by
      cases action <;> simp [noticed?, gone]
    rw [step_keeps_pending dialog action arrives unnoticed unended, gone]

/-- An operation comes upon the end of the resolution: a poll if it has arrived, a wait in any
case. -/
def Finds (ending : Option Ending) (before : List Action) : Action → Prop
  | .poll => ending.isSome = true ∧ .arrive ∈ before
  | .resolve => ending.isSome = true
  | _ => False

theorem finds_ending (ending : Option Ending) (before : List Action) (action : Action)
    (finds : Finds ending before action) : ending.isSome = true := by
  cases action with
  | poll => exact finds.1
  | resolve => exact finds
  | _ => cases finds

def Found (ending : Option Ending) (actions : List Action) : Prop :=
  ∃ before action after, actions = before ++ action :: after ∧ Finds ending before action

theorem found_concat_iff (ending : Option Ending) (actions : List Action) (action : Action) :
    Found ending (actions ++ [action]) ↔ Found ending actions ∨ Finds ending actions action := by
  constructor
  · rintro ⟨before, last, after, cut, finds⟩
    rcases List.eq_nil_or_concat after with rfl | ⟨rest, final, rfl⟩
    · obtain ⟨rfl, same⟩ := List.append_inj' cut rfl
      cases same
      exact Or.inr finds
    · rw [List.concat_eq_append, ← List.cons_append, ← List.append_assoc] at cut
      exact Or.inl ⟨before, last, rest, (List.append_inj' cut rfl).1, finds⟩
  · rintro (⟨before, last, after, rfl, finds⟩ | finds)
    · exact ⟨before, last, after ++ [action], by simp, finds⟩
    · exact ⟨actions, action, [], rfl, finds⟩

theorem found_append (ending : Option Ending) (actions more : List Action)
    (found : Found ending actions) : Found ending (actions ++ more) := by
  obtain ⟨before, action, after, rfl, finds⟩ := found
  exact ⟨before, action, after ++ more, by simp, finds⟩

def awaited (ending : Option Ending) (actions : List Action) : Pending where
  ending
  arrived := ending.isSome && decide (.arrive ∈ actions)

theorem noticed_iff (wizard : Wizard) (ending : Option Ending) (actions : List Action)
    (pending : wizard.pending = some (awaited ending actions)) (action : Action)
    (settlement : Ending) :
    wizard.noticed? action = some settlement ↔
      Finds ending actions action ∧ ending = some settlement := by
  cases action with
  | poll =>
      simp only [noticed?, pending, Option.bind_some, awaited, Bool.and_eq_true,
        decide_eq_true_eq, Option.ite_none_right_eq_some, Finds]
  | resolve =>
      simp only [noticed?, pending, Option.bind_some, awaited, Finds]
      constructor
      · rintro rfl
        exact ⟨rfl, rfl⟩
      · exact fun found => found.2
  | _ => simp [noticed?, Finds]

structure Remains (ending : Option Ending) (actions : List Action) (wizard : Wizard) : Prop where
  underWay : wizard.closed = false → ¬ Found ending actions →
    wizard.pending = some (awaited ending actions)
  closed : wizard.closed = true → wizard.pending = none
  found : Found ending actions → wizard.pending = none

theorem step_missed (dialog : WizardDialog) (ending : Option Ending) (actions : List Action)
    (action : Action) (pending : dialog.wizard.pending = some (awaited ending actions))
    (misses : ¬ Finds ending actions action)
    (unended : ∀ status signal, ¬ dialog.Ends action status signal) :
    (dialog.step action).1.wizard.pending = some (awaited ending (actions ++ [action])) := by
  by_cases arrives : action = .arrive
  · subst arrives
    simp [step, Wizard.arrive, pending, awaited]
  · have unnoticed : dialog.wizard.noticed? action = none := by
      cases noticed : dialog.wizard.noticed? action with
      | none => rfl
      | some settlement =>
          exact absurd ((noticed_iff _ ending actions pending action settlement).mp noticed).1 misses
    have same : awaited ending (actions ++ [action]) = awaited ending actions := by
      simp [awaited, List.mem_append, Ne.symm arrives]
    rw [step_keeps_pending dialog action arrives unnoticed unended, pending, same]

theorem step_found (dialog : WizardDialog) (ending : Option Ending) (actions : List Action)
    (action : Action) (pending : dialog.wizard.pending = some (awaited ending actions))
    (finds : Finds ending actions action) : (dialog.step action).1.wizard.pending = none := by
  obtain ⟨settlement, same⟩ := Option.isSome_iff_exists.mp (finds_ending ending actions action finds)
  exact step_noticed dialog action settlement
    ((noticed_iff _ ending actions pending action settlement).mpr ⟨finds, same⟩)

theorem remains_concat (ending : Option Ending) (dialog : WizardDialog) (actions : List Action)
    (action : Action) (remains : Remains ending actions dialog.wizard) :
    Remains ending (actions ++ [action]) (dialog.step action).1.wizard := by
  rcases step_cases dialog action with ⟨status, signal, ends, same⟩ | ⟨unended, turns, _⟩
  · -- The end of the dialog gives the resolution up.
    have gone : (dialog.step action).1.wizard.pending = none := by
      rw [same]
      rfl
    have final : (dialog.step action).1.wizard.closed = true := by
      rw [same]
      exact ends_final _ _ _ _ ends
    refine ⟨fun active => ?_, fun _ => gone, fun _ => gone⟩
    cases active.symm.trans final
  have still := turns_closed _ _ turns
  constructor
  · intro active unfound
    rw [still] at active
    rw [found_concat_iff, not_or] at unfound
    have pending := remains.underWay active unfound.1
    exact step_missed dialog ending actions action pending unfound.2 unended
  · intro closed
    rw [still] at closed
    exact step_gone dialog action (remains.closed closed)
  · intro found
    by_cases before : Found ending actions
    · exact step_gone dialog action (remains.found before)
    · have finds := ((found_concat_iff _ _ _).mp found).resolve_left before
      cases active : dialog.wizard.closed with
      | true => exact step_gone dialog action (remains.closed active)
      | false =>
          exact step_found dialog ending actions action (remains.underWay active before) finds

theorem run_remains (ending : Option Ending) (dialog : WizardDialog) (actions : List Action)
    (active : dialog.wizard.closed = false)
    (pending : dialog.wizard.pending = some (awaited ending [])) :
    Remains ending actions (dialog.run actions).wizard := by
  induction actions using List.reverseRecOn with
  | nil =>
      refine ⟨fun _ _ => pending, fun closed => ?_, ?_⟩
      · cases active.symm.trans closed
      · rintro ⟨before, action, after, cut, _⟩
        cases List.append_ne_nil_of_right_ne_nil before (List.cons_ne_nil action after) cut.symm
  | append_singleton actions action ih =>
      rw [run_concat]
      exact remains_concat ending (dialog.run actions) actions action ih

theorem remains_resolving_iff (ending : Option Ending) (actions : List Action) (wizard : Wizard)
    (remains : Remains ending actions wizard) :
    wizard.resolving = true ↔ wizard.closed = false ∧ ¬ Found ending actions := by
  rw [resolving]
  constructor
  · intro under
    constructor
    · cases active : wizard.closed with
      | false => rfl
      | true => rw [remains.closed active] at under; cases under
    · intro found
      rw [remains.found found] at under
      cases under
  · rintro ⟨active, unfound⟩
    rw [remains.underWay active unfound, Option.isSome_some]

def settled (dialog : WizardDialog) : WizardDialog :=
  { dialog with wizard := { dialog.wizard with pending := none } }

def Action.reports : Action → Reply → Reply
  | .poll, .done => .polled true
  | _, reply => reply

theorem step_answered_ending (dialog : WizardDialog) (action : Action) (answer : Answer)
    (noticed : dialog.wizard.noticed? action = some (.answered answer)) :
    dialog.step action =
      ((dialog.step (.apply answer)).1.settled, action.reports (dialog.step (.apply answer)).2) := by
  have applied : dialog.wizard.applyEnding (.answered answer) =
      ({ (dialog.wizard.applyAnswer answer).1 with pending := none },
        (dialog.wizard.applyAnswer answer).2) :=
    apply_answer_pending dialog.wizard none answer
  cases action with
  | poll =>
      have polled : dialog.wizard.poll = (
          { (dialog.wizard.applyAnswer answer).1 with pending := none },
          (dialog.wizard.applyAnswer answer).2.map fun _ => true) := by
        rw [poll_result, noticed, Option.elim_some, applied]
      simp only [step, polled]
      cases (dialog.wizard.applyAnswer answer).2 <;> rfl
  | resolve =>
      have resolved : dialog.wizard.resolve = (
          { (dialog.wizard.applyAnswer answer).1 with pending := none },
          some (dialog.wizard.applyAnswer answer).2) := by
        rw [resolve_result, noticed, Option.elim_some, applied]
      simp only [step, resolved]
      cases (dialog.wizard.applyAnswer answer).2 <;> rfl
  | _ => cases noticed

theorem step_dropped_ending (dialog : WizardDialog) (action : Action)
    (noticed : dialog.wizard.noticed? action = some .dropped) :
    dialog.step action = (dialog.settled, .failed .resolutionDropped) := by
  cases action with
  | poll =>
      simp only [step, poll_result, noticed, Option.elim_some, applyEnding, Except.map]
      rfl
  | resolve =>
      simp only [step, resolve_result, noticed, Option.elim_some, applyEnding]
      rfl
  | _ => cases noticed

structure Settles (ending : Option Ending) (dialog : WizardDialog) (before : List Action)
    (action : Action) : Prop where
  active : (dialog.run before).wizard.closed = false
  first : ¬ Found ending before
  finds : Finds ending before action

theorem settles_once (ending : Option Ending) (dialog : WizardDialog)
    (before after other rest : List Action) (action last : Action)
    (same : before ++ action :: after = other ++ last :: rest)
    (settles : Settles ending dialog before action) (settled : Settles ending dialog other last) :
    before = other := by
  -- Of two cuts one lies in the other's front part, where nothing has come upon the end.
  rcases List.append_eq_append_iff.mp same with ⟨between, rfl, tail⟩ | ⟨between, rfl, tail⟩
  · cases between with
    | nil => exact (List.append_nil before).symm
    | cons first middle =>
        cases tail
        exact absurd ⟨before, action, middle, rfl, settles.finds⟩ settled.first
  · cases between with
    | nil => exact List.append_nil other
    | cons first middle =>
        cases tail
        exact absurd ⟨other, last, middle, rfl, settled.finds⟩ settles.first

theorem settles_noticed (ending : Option Ending) (dialog : WizardDialog) (actions : List Action)
    (remains : Remains ending actions (dialog.run actions).wizard) (action : Action)
    (settles : Settles ending dialog actions action) (settlement : Ending)
    (known : ending = some settlement) :
    (dialog.run actions).wizard.noticed? action = some settlement :=
  (noticed_iff _ ending actions (remains.underWay settles.active settles.first) action
    settlement).mpr ⟨settles.finds, known⟩

theorem unsettled_unnoticed (ending : Option Ending) (dialog : WizardDialog)
    (actions : List Action) (remains : Remains ending actions (dialog.run actions).wizard)
    (action : Action) (unsettled : ¬ Settles ending dialog actions action) :
    (dialog.run actions).wizard.noticed? action = none := by
  cases noticed : (dialog.run actions).wizard.noticed? action with
  | none => rfl
  | some settlement =>
      have absent : (dialog.run actions).wizard.pending = none → False := by
        intro gone
        cases action <;> simp [noticed?, gone] at noticed
      cases active : (dialog.run actions).wizard.closed with
      | true => exact (absent (remains.closed active)).elim
      | false =>
          by_cases found : Found ending actions
          · exact (absent (remains.found found)).elim
          · have pending := remains.underWay active found
            have finds := ((noticed_iff _ ending actions pending action settlement).mp noticed).1
            exact absurd ⟨active, found, finds⟩ unsettled

theorem step_poll_unnoticed (dialog : WizardDialog)
    (unnoticed : dialog.wizard.noticed? .poll = none) :
    dialog.step .poll = (dialog, .polled false) := by
  simp only [step, poll_result, unnoticed, Option.elim_none]

theorem step_resolve_gone (dialog : WizardDialog) (gone : dialog.wizard.resolving = false) :
    dialog.step .resolve = (dialog, .done) := by
  have unnoticed : dialog.wizard.noticed? .resolve = none := by
    rw [resolving, Option.isSome_eq_false_iff, Option.isNone_iff_eq_none] at gone
    simp only [noticed?, gone, Option.bind_none]
  simp only [step, resolve_result, unnoticed, Option.elim_none, gone, Bool.false_eq_true, if_false]
  rfl

/-- A resolution under way is settled once at most, by the first poll or wait that comes upon its
end while the wizard is open; the wizard resolves until then or until it is closed. -/
structure SettlesOnce (ending : Option Ending) (dialog : WizardDialog) (actions : List Action) :
    Prop where
  resolving : (dialog.run actions).wizard.resolving = true ↔
    (dialog.run actions).wizard.closed = false ∧ ¬ Found ending actions
  never : (dialog.run actions).wizard.resolving = false →
    ∀ more, (dialog.run (actions ++ more)).wizard.resolving = false
  once : ∀ before action after other last rest,
    actions = before ++ action :: after → actions = other ++ last :: rest →
    Settles ending dialog before action → Settles ending dialog other last → before = other
  answered : ∀ action, Settles ending dialog actions action →
    ∀ answer, ending = some (.answered answer) →
      (dialog.run actions).step action =
        (((dialog.run actions).step (.apply answer)).1.settled,
          action.reports ((dialog.run actions).step (.apply answer)).2)
  dropped : ∀ action, Settles ending dialog actions action → ending = some .dropped →
    (dialog.run actions).step action = ((dialog.run actions).settled, .failed .resolutionDropped)
  unarrived : .arrive ∉ actions →
    (dialog.run actions).step .poll = (dialog.run actions, .polled false)
  missed : ¬ Settles ending dialog actions .poll →
    (dialog.run actions).step .poll = (dialog.run actions, .polled false)
  resolved : (dialog.run actions).wizard.resolving = false →
    (dialog.run actions).step .resolve = (dialog.run actions, .done)
  -- Such a wait does not come back, so nothing follows it.
  endless : (dialog.run actions).wizard.resolving = true → ending = none →
    (dialog.run actions).step .resolve = (dialog.run actions, .waiting)
  closed : (dialog.run actions).wizard.closed = true →
    (dialog.run actions).step .poll = (dialog.run actions, .polled false) ∧
      (dialog.run actions).step .resolve = (dialog.run actions, .done) ∧
      ∀ answer, (dialog.run actions).step (.apply answer) = (dialog.run actions, .done)

theorem run_settles_once (ending : Option Ending) (dialog : WizardDialog) (actions : List Action)
    (active : dialog.wizard.closed = false)
    (pending : dialog.wizard.pending = some (awaited ending [])) :
    SettlesOnce ending dialog actions := by
  have remains := run_remains ending dialog actions active pending
  have under := remains_resolving_iff ending actions _ remains
  have unsettled : ¬ Settles ending dialog actions .poll →
      (dialog.run actions).step .poll = (dialog.run actions, .polled false) := fun missed =>
    step_poll_unnoticed _ (unsettled_unnoticed ending dialog actions remains .poll missed)
  constructor
  · exact under
  · intro gone more
    have later := run_remains ending dialog (actions ++ more) active pending
    rw [← Bool.not_eq_true, under] at gone
    rw [← Bool.not_eq_true, remains_resolving_iff ending _ _ later]
    rintro ⟨unclosed, unfound⟩
    refine gone ⟨?_, fun found => unfound (found_append ending actions more found)⟩
    cases early : (dialog.run actions).wizard.closed with
    | false => rfl
    | true =>
        rw [run_append, (run_closed _ more early).1] at unclosed
        cases unclosed
  · intro before action after other last rest cut another settles settled
    exact settles_once ending dialog before after other rest action last (cut ▸ another) settles
      settled
  · intro action settles answer known
    exact step_answered_ending _ action answer
      (settles_noticed ending dialog actions remains action settles _ known)
  · intro action settles known
    exact step_dropped_ending _ action
      (settles_noticed ending dialog actions remains action settles _ known)
  · intro absent
    exact unsettled fun settles => absent settles.finds.2
  · exact unsettled
  · exact step_resolve_gone _
  · intro waits unending
    have pending := (under.mp waits)
    have unnoticed := unsettled_unnoticed ending dialog actions remains .resolve fun settles => by
      have some := finds_ending ending actions .resolve settles.finds
      rw [unending] at some
      cases some
    simp only [step, resolve_result, unnoticed, Option.elim_none, waits, if_true]
  · intro closed
    have gone : (dialog.run actions).wizard.resolving = false := by
      rw [resolving, remains.closed closed, Option.isSome_none]
    refine ⟨unsettled fun settles => ?_, step_resolve_gone _ gone, fun answer => ?_⟩
    · cases closed.symm.trans settles.active
    · simp only [step, applyAnswer, closed, if_true]
      rfl

theorem launched_settles_once (scope : Scope) (topology : Topology)
    (service : TargetQuery → Option Ending) :
    ∃ wizard, Wizard.launch scope topology service true = .ok wizard ∧
      wizard.resolving = true ∧
      ∀ actions, SettlesOnce (service (scope.query topology)) { wizard } actions := by
  refine ⟨_, rfl, rfl, fun actions => ?_⟩
  refine run_settles_once _ _ actions rfl ?_
  simp [awaited]

end WizardDialog

end Wiring
