import Wiring.Proofs.Wizard.InFlight

/-!
The ways in which an answer is delivered to a wizard: a wait, a poll after the
resolution has arrived, an application by the host. What is under way bears on no
other operation, so a wizard with a resolution under way is, but for that, in the same
state as one without; all three ways then end in the same application.
-/

namespace Wiring

namespace Wizard

theorem select_relationship_pending (wizard : Wizard) (pending : Option Pending)
    (type : RelationshipType) :
    ({ wizard with pending } : Wizard).selectRelationship type =
      (wizard.selectRelationship type).map ({ · with pending }) := by
  rw [selectRelationship, selectRelationship, closed_pending]
  cases wizard.closed <;> rfl

theorem set_name_pending (wizard : Wizard) (pending : Option Pending) (name : String) :
    ({ wizard with pending } : Wizard).setName name =
      (wizard.setName name).map ({ · with pending }) := by
  rw [setName, setName, closed_pending]
  cases wizard.closed <;> rfl

theorem next_pending (wizard : Wizard) (pending : Option Pending) :
    ({ wizard with pending } : Wizard).next = { wizard.next with pending } := by
  simp only [next]
  split <;> rfl

theorem back_pending (wizard : Wizard) (pending : Option Pending) :
    ({ wizard with pending } : Wizard).back = { wizard.back with pending } := by
  simp only [back]
  split <;> rfl

theorem resolve_answered (wizard : Wizard) (pending : Pending) (answer : Answer)
    (under : wizard.pending = some pending) (ends : pending.ending = some (.answered answer)) :
    wizard.resolve =
      ((({ wizard with pending := none } : Wizard).applyAnswer answer).1,
        some (({ wizard with pending := none } : Wizard).applyAnswer answer).2) := by
  obtain ⟨ending, arrived⟩ := pending
  subst ends
  rw [resolve, under]
  rfl

theorem poll_answered (wizard : Wizard) (pending : Pending) (answer : Answer)
    (under : wizard.pending = some pending) (ends : pending.ending = some (.answered answer))
    (arrived : pending.arrived = true) :
    wizard.poll =
      ((({ wizard with pending := none } : Wizard).applyAnswer answer).1,
        (({ wizard with pending := none } : Wizard).applyAnswer answer).2.map fun _ => true) := by
  obtain ⟨ending, reached⟩ := pending
  subst ends arrived
  rw [poll, under]
  rfl

end Wizard

namespace WizardDialog

open Wizard

def Action.unaware : Action → Bool
  | .arrive | .poll | .resolve => false
  | _ => true

theorem attempt_settled (dialog : WizardDialog) (result : Except FlowError Wizard) :
    dialog.settled.attempt (result.map ({ · with pending := none })) =
      ((dialog.attempt result).1.settled, (dialog.attempt result).2) := by
  cases result <;> rfl

theorem finish_settled (dialog : WizardDialog) : dialog.settled.finish = dialog.finish := by
  unfold finish Wizard.finish
  have still : dialog.settled.wizard.closed = dialog.wizard.closed := rfl
  have same : dialog.settled.wizard.descriptor? = dialog.wizard.descriptor? := rfl
  rw [still, same]
  rfl

theorem step_settled (dialog : WizardDialog) (action : Action) (unaware : action.unaware = true) :
    dialog.settled.step action = ((dialog.step action).1.settled, (dialog.step action).2) := by
  cases action with
  | selectRelationship type =>
      simp only [step]
      rw [← attempt_settled, ← select_relationship_pending]
      rfl
  | selectTarget target capability =>
      simp only [step]
      rw [← attempt_settled, ← select_target_pending]
      rfl
  | setName name =>
      simp only [step]
      rw [← attempt_settled, ← set_name_pending]
      rfl
  | next =>
      have same := next_pending dialog.wizard none
      simp only [step, settled, same]
  | back =>
      have same := back_pending dialog.wizard none
      simp only [step, settled, same]
  | finish =>
      simp only [step, finish_settled]
      cases finished : dialog.finish with
      | error error => rfl
      | ok after =>
          obtain ⟨_, _, _, rfl⟩ := (finish_iff _ _).mp finished
          rfl
  | cancel =>
      have still : dialog.settled.wizard.closed = dialog.wizard.closed := rfl
      simp only [step, cancel, Wizard.cancel, still]
      cases dialog.wizard.closed <;> rfl
  | take => rfl
  | apply answer =>
      have same := apply_answer_pending dialog.wizard none answer
      simp only [step, settled, same]
  | arrive | poll | resolve => cases unaware

def Action.others (actions : List Action) : List Action :=
  actions.filter fun action => decide (action ≠ .arrive)

-- The induction is on the operations with the arrivals among them, which leave no trace in what is
-- settled.
theorem run_settled (dialog : WizardDialog) (woven : List Action)
    (unaware : ∀ action ∈ Action.others woven, action.unaware = true) :
    (dialog.run woven).settled = dialog.settled.run (Action.others woven) := by
  induction woven generalizing dialog with
  | nil => rfl
  | cons action rest ih =>
      by_cases arrives : action = .arrive
      · subst arrives
        have others : Action.others (.arrive :: rest) = Action.others rest := by
          simp [Action.others]
        rw [others] at unaware ⊢
        exact ih (dialog.step .arrive).1 unaware
      · have others : Action.others (action :: rest) = action :: Action.others rest := by
          simp [Action.others, arrives]
        rw [others] at unaware ⊢
        have first := step_settled dialog action (unaware action List.mem_cons_self)
        have behind := ih (dialog.step action).1 fun other member =>
          unaware other (List.mem_cons_of_mem action member)
        rw [show dialog.settled.run (action :: Action.others rest) =
          (dialog.settled.step action).1.run (Action.others rest) from rfl, first]
        exact behind

theorem woven_unfound (ending : Option Ending) (woven : List Action)
    (unaware : ∀ action ∈ Action.others woven, action.unaware = true) : ¬ Found ending woven := by
  rintro ⟨before, action, after, rfl, finds⟩
  have kept : action ≠ .arrive → action.unaware = true := by
    intro other
    apply unaware
    simp [Action.others, other]
  cases action with
  | poll => cases kept nofun
  | resolve => cases kept nofun
  | _ => exact finds

structure DeliversAlike (launched started : Wizard) (operations : List Action)
    (answer : Answer) : Prop where
  resolved : ∀ woven, Action.others woven = operations →
    (run { wizard := launched } woven).wizard.resolve =
      (((run { wizard := started } operations).wizard.applyAnswer answer).1,
        some ((run { wizard := started } operations).wizard.applyAnswer answer).2)
  polled : ∀ woven, Action.others woven = operations → .arrive ∈ woven →
    (run { wizard := launched } woven).wizard.poll =
      (((run { wizard := started } operations).wizard.applyAnswer answer).1,
        ((run { wizard := started } operations).wizard.applyAnswer answer).2.map fun _ => true)
  settled : ((run { wizard := started } operations).wizard.applyAnswer answer).1.resolving = false

theorem others_unaware (operations : List Action)
    (unaware : ∀ operation ∈ operations, operation.unaware = true) :
    Action.others operations = operations := by
  apply List.filter_eq_self.mpr
  intro operation member
  have other := unaware operation member
  cases operation with
  | arrive => cases other
  | _ => rfl

theorem woven_agrees (wizard : Wizard) (answer : Answer) (woven : List Action)
    (active : wizard.closed = false)
    (pending : wizard.pending = some (awaited (some (.answered answer)) []))
    (unaware : ∀ action ∈ Action.others woven, action.unaware = true)
    (still : (run { wizard := { wizard with pending := none } }
      (Action.others woven)).wizard.closed = false) :
    { (run { wizard } woven).wizard with pending := none } =
        (run { wizard := { wizard with pending := none } } (Action.others woven)).wizard ∧
      (run { wizard } woven).wizard.pending = some (awaited (some (.answered answer)) woven) := by
  have settled := congrArg WizardDialog.wizard (run_settled { wizard } woven unaware)
  refine ⟨settled, ?_⟩
  have remains := run_remains (some (.answered answer)) { wizard } woven active pending
  apply remains.underWay
  · exact (congrArg Wizard.closed settled).trans still
  · exact woven_unfound _ woven unaware

theorem launched_delivers_alike (scope : Scope) (topology : Topology)
    (service : TargetQuery → Option Ending) (operations : List Action) (answer : Answer)
    (answers : service (scope.query topology) = some (.answered answer))
    (unaware : ∀ operation ∈ operations, operation.unaware = true)
    (active : (run { wizard := .start scope topology } operations).wizard.closed = false) :
    ∃ launched, Wizard.launch scope topology service true = .ok launched ∧
      DeliversAlike launched (.start scope topology) operations answer := by
  let started := Wizard.start scope topology
  let launched := { started with pending := some { ending := service (scope.query topology) } }
  have pending : launched.pending = some (awaited (some (.answered answer)) []) := by
    simp [launched, answers, awaited]
  have agrees : ∀ woven, Action.others woven = operations →
      { (run { wizard := launched } woven).wizard with pending := none } =
          (run { wizard := started } operations).wizard ∧
        (run { wizard := launched } woven).wizard.pending =
          some (awaited (some (.answered answer)) woven) := by
    rintro woven rfl
    exact woven_agrees launched answer woven rfl pending unaware active
  refine ⟨launched, rfl, ?_, ?_, ?_⟩
  · intro woven same
    obtain ⟨settled, under⟩ := agrees woven same
    rw [resolve_answered _ _ answer under rfl, settled]
  · intro woven same arrived
    obtain ⟨settled, under⟩ := agrees woven same
    have reached : (awaited (some (.answered answer)) woven).arrived = true := by
      simp [awaited, arrived]
    rw [poll_answered _ _ answer under rfl reached, settled]
  · obtain ⟨settled, _⟩ := agrees operations (others_unaware operations unaware)
    rw [resolving, apply_answer_keeps_pending, ← settled]
    rfl

def early : List Action := [
  .selectTarget "server" none, .selectRelationship { elementId := "a.b.ConnectsTo" }, .back]

def typed : Answer := .resolved { relationshipType := some { elementId := "a.b.HostedOn" } }

theorem early_delivers_alike :
    (∀ operation ∈ early, operation.unaware = true) ∧
      (run { wizard := .start default default } early).wizard.closed = false ∧
      ∃ launched, Wizard.launch default default (fun _ => some (.answered typed)) true =
          .ok launched ∧
        DeliversAlike launched (.start default default) early typed :=
  ⟨by decide, by decide, launched_delivers_alike default default _ early typed rfl (by decide)
    (by decide)⟩

end WizardDialog

end Wiring
