import Wiring.Proofs.Wizard.Filtering
import Wiring.Proofs.Wizard.TerminalSignal

/-!
Operations that are refused. An operation is made of stages, and a stage that fails does
not take back what the stages before it have written. In each of them all that can fail
comes before the first write, so a refusal leaves no trace.
-/

namespace Wiring

namespace WizardDialog

open Wizard

abbrev Stage := WizardDialog → Except FlowError WizardDialog

/-- The stages in turn, up to one that fails. What has been written by then stays written. -/
def perform : List Stage → WizardDialog → WizardDialog × Except FlowError Unit
  | [], dialog => (dialog, .ok ())
  | stage :: rest, dialog =>
      match stage dialog with
      | .error error => (dialog, .error error)
      | .ok after => perform rest after

namespace Stage

def write (change : Wizard → Wizard) : Stage := fun dialog =>
  .ok { dialog with wizard := change dialog.wizard }

def writeData (change : RelationshipChoice → RelationshipChoice) : Stage :=
  write fun wizard => { wizard with data := change wizard.data }

def checkOpen : Stage := fun dialog =>
  if dialog.wizard.closed then .error .flowClosed else .ok dialog

def checkComplete : Stage := fun dialog =>
  if dialog.wizard.descriptor?.isNone then .error (.incompleteSelection .relationship)
  else .ok dialog

def filterFor (target : String) : Option String → Stage
  | none => .ok
  | some capability => fun dialog =>
      match dialog.wizard.lookUpCapability target capability with
      | .error error => .error error
      | .ok type => write (fun wizard => { wizard with hiddenFilters := [.admitting type] }) dialog

def skipKnownType : Stage :=
  write fun wizard =>
    if wizard.data.relationship.isSome then wizard.advance.refreshName else wizard

def handOver : Stage := fun dialog =>
  .ok { dialog with modal := dialog.wizard.descriptor?.elim dialog.modal dialog.modal.close }

def whether (stages : List Stage) : Stage := fun dialog => .ok (perform stages dialog).1

def Sure (stage : Stage) : Prop := ∀ dialog, ∃ after, stage dialog = .ok after

def Idle (stage : Stage) : Prop := ∀ dialog after, stage dialog = .ok after → after = dialog

theorem write_sure (change : Wizard → Wizard) : Sure (write change) := fun _ => ⟨_, rfl⟩

theorem hand_over_sure : Sure handOver := fun _ => ⟨_, rfl⟩

theorem check_open_idle : Idle checkOpen := by
  intro dialog after passed
  unfold checkOpen at passed
  split at passed
  · cases passed
  · cases passed
    rfl

theorem check_complete_idle : Idle checkComplete := by
  intro dialog after passed
  unfold checkComplete at passed
  split at passed
  · cases passed
  · cases passed
    rfl

end Stage

open Stage

def Action.stages : Action → List Stage
  | .selectRelationship type => [
      checkOpen, writeData fun data => { data with relationship := some type },
      write Wizard.refreshName, write Wizard.advance]
  | .selectTarget target capability => [
      checkOpen, filterFor target capability,
      writeData fun data => { data with target := some target },
      writeData fun data => { data with targetedCapabilityName := capability },
      write Wizard.advance, skipKnownType]
  | .setName name => [
      checkOpen,
      writeData fun data => { data with
        name := if name = "" ∨ data.relationship.isNone ∨ data.target.isNone then none
          else some name }]
  | .finish => [
      checkOpen, checkComplete, write (·.close .finished), handOver]
  | _ => []

def preselecting : Option TargetMatch → List Stage
  | some { template, capabilities := [capability] } =>
      (Action.selectTarget template.name (some capability.id)).stages
  | _ => []

def applying (resolved : ResolvedTargets) : List Stage := [
  write fun wizard => { wizard with resolutionError := none },
  write fun wizard => { wizard with targets := resolved.targets },
  writeData fun data =>
    { data with relationship := resolved.relationshipType.or data.relationship },
  whether (preselecting resolved.preferredMatch)]

inductive Guarded : List Stage → Prop where
  | nil : Guarded []
  | check (stage : Stage) (rest : List Stage) (idle : Idle stage) (guarded : Guarded rest) :
      Guarded (stage :: rest)
  | last (stage : Stage) (rest : List Stage) (sure : ∀ later ∈ rest, Sure later) :
      Guarded (stage :: rest)

theorem sure_performed (stages : List Stage) (dialog : WizardDialog)
    (sure : ∀ stage ∈ stages, Sure stage) : (perform stages dialog).2 = .ok () := by
  induction stages generalizing dialog with
  | nil => rfl
  | cons stage rest ih =>
      obtain ⟨after, passed⟩ := sure stage List.mem_cons_self dialog
      rw [perform, passed]
      exact ih after fun later member => sure later (List.mem_cons_of_mem stage member)

theorem guarded_untouched (stages : List Stage) (guarded : Guarded stages) (dialog : WizardDialog)
    (error : FlowError) (failed : (perform stages dialog).2 = .error error) :
    (perform stages dialog).1 = dialog := by
  induction guarded with
  | nil => cases failed
  | check stage rest idle _ ih =>
      cases passed : stage dialog with
      | error cause => simp only [perform, passed]
      | ok after =>
          obtain rfl := idle dialog after passed
          simp only [perform, passed] at failed ⊢
          exact ih failed
  | last stage rest sure =>
      cases passed : stage dialog with
      | error cause => simp only [perform, passed]
      | ok after =>
          simp only [perform, passed] at failed
          cases (sure_performed rest after sure).symm.trans failed

theorem stages_guarded (action : Action) : Guarded action.stages := by
  cases action with
  | selectRelationship type =>
      refine .check _ _ check_open_idle (.last _ _ ?_)
      simp [write_sure]
  | selectTarget target capability =>
      refine .check _ _ check_open_idle (.last _ _ ?_)
      simp [writeData, skipKnownType, write_sure]
  | setName name => exact .check _ _ check_open_idle (.last _ _ nofun)
  | finish =>
      refine .check _ _ check_open_idle (.check _ _ check_complete_idle (.last _ _ ?_))
      simp [hand_over_sure]
  | _ => exact .nil

theorem perform_closed (dialog : WizardDialog) (rest : List Stage)
    (closed : dialog.wizard.closed = true) :
    perform (checkOpen :: rest) dialog = (dialog, .error .flowClosed) := by
  simp only [perform, checkOpen, closed, if_true]

theorem perform_open (dialog : WizardDialog) (rest : List Stage)
    (active : dialog.wizard.closed = false) :
    perform (checkOpen :: rest) dialog = perform rest dialog := by
  simp only [perform, checkOpen, active, Bool.false_eq_true, if_false]

theorem filter_for_known (dialog : WizardDialog) (target : String) (capability : Option String) :
    filterFor target capability dialog =
      (dialog.wizard.filtersFor target capability).map fun hiddenFilters =>
        { dialog with wizard := { dialog.wizard with hiddenFilters } } := by
  cases capability with
  | none => rfl
  | some id =>
      simp only [filterFor, filtersFor]
      cases dialog.wizard.lookUpCapability target id <;> rfl

theorem relate_performed (wizard : Wizard) (modal : OutcomeSlot RelationshipDescriptor)
    (type : RelationshipType) (active : wizard.closed = false) :
    perform (Action.selectRelationship type).stages { wizard, modal } =
      ({ wizard := wizard.related type, modal }, .ok ()) := by
  rw [Action.stages, perform_open _ _ active]
  cases target : wizard.data.target <;>
    simp [perform, write, writeData, related, refreshName, advance, target]

theorem target_performed (wizard : Wizard) (modal : OutcomeSlot RelationshipDescriptor)
    (target : String) (capability : Option String) (filters : List HiddenFilter)
    (active : wizard.closed = false) (known : wizard.filtersFor target capability = .ok filters) :
    perform (Action.selectTarget target capability).stages { wizard, modal } =
      ({ wizard := wizard.targeted target capability filters, modal }, .ok ()) := by
  rw [Action.stages, perform_open _ _ active, perform, filter_for_known, known]
  cases type : wizard.data.relationship <;>
    simp [Except.map, perform, write, writeData, skipKnownType, targeted, refreshName, advance, type]

theorem target_failed (dialog : WizardDialog) (target : String) (capability : Option String)
    (error : FlowError) (active : dialog.wizard.closed = false)
    (unknown : dialog.wizard.filtersFor target capability = .error error) :
    perform (Action.selectTarget target capability).stages dialog = (dialog, .error error) := by
  rw [Action.stages, perform_open _ _ active, perform, filter_for_known, unknown]
  rfl

theorem name_performed (wizard : Wizard) (modal : OutcomeSlot RelationshipDescriptor)
    (name : String) (active : wizard.closed = false) :
    perform (Action.setName name).stages { wizard, modal } =
      ({ wizard := wizard.named name, modal }, .ok ()) := by
  rw [Action.stages, perform_open _ _ active]
  cases type : wizard.data.relationship <;> cases target : wizard.data.target <;>
    by_cases empty : name = "" <;>
      simp [perform, write, writeData, named, type, target, empty]

theorem finish_performed (dialog : WizardDialog) (active : dialog.wizard.closed = false) :
    perform Action.finish.stages dialog =
      dialog.wizard.descriptor?.elim (dialog, .error (.incompleteSelection .relationship))
        fun descriptor =>
          ({ wizard := dialog.wizard.close .finished, modal := dialog.modal.close descriptor },
            .ok ()) := by
  rw [Action.stages, perform_open _ _ active]
  cases complete : dialog.wizard.descriptor? with
  | none => simp [perform, checkComplete, complete]
  | some descriptor =>
      -- The end of a wizard leaves what has been chosen, so there is still a descriptor to signal.
      have kept : (dialog.wizard.close .finished).descriptor? = some descriptor := complete
      simp [perform, checkComplete, write, handOver, complete, kept]

/-- An operation that can be refused does what its stages do. -/
theorem step_performed (dialog : WizardDialog) (action : Action)
    (refusable : action.refusable = true) :
    dialog.step action =
      ((perform action.stages dialog).1, replyOf (perform action.stages dialog).2) := by
  cases active : dialog.wizard.closed with
  | true =>
      rw [step_refused dialog action refusable active]
      cases action with
      | selectRelationship | selectTarget | setName | finish =>
          rw [Action.stages, perform_closed dialog _ active]
          rfl
      | _ => cases refusable
  | false =>
      cases action with
      | selectRelationship type =>
          rw [step, (select_relationship_iff _ _ type).mpr ⟨active, rfl⟩,
            relate_performed _ _ type active]
          rfl
      | selectTarget target capability =>
          cases known : dialog.wizard.filtersFor target capability with
          | error error =>
              rw [target_failed dialog target capability error active known]
              simp [step, selectTarget, active, known, bind, Except.bind, attempt, replyOf]
          | ok filters =>
              rw [step, (select_target_iff _ _ target capability).mpr ⟨active, filters, known, rfl⟩,
                target_performed _ _ target capability filters active known]
              rfl
      | setName name =>
          rw [step, (set_name_iff _ _ name).mpr ⟨active, rfl⟩, name_performed _ _ name active]
          rfl
      | finish =>
          rw [finish_performed dialog active]
          cases complete : dialog.wizard.descriptor? <;>
            simp [step, finish, Wizard.finish, active, complete, bind, Except.bind, pure,
              Except.pure, replyOf, Modal.close]
      | _ => cases refusable

inductive Refuses (dialog : WizardDialog) : Action → FlowError → Prop where
  | closed (action : Action) (refusable : action.refusable = true)
      (closed : dialog.wizard.closed = true) : Refuses dialog action .flowClosed
  | template (target id : String) (active : dialog.wizard.closed = false)
      (unknown : dialog.wizard.topology.nodeTemplates.find? target = none) :
      Refuses dialog (.selectTarget target (some id)) (.unknownNodeTemplate target)
  | capability (target id : String) (template : NodeTemplate)
      (active : dialog.wizard.closed = false)
      (found : dialog.wizard.topology.nodeTemplates.find? target = some template)
      (unknown : template.capabilities.find? id = none) :
      Refuses dialog (.selectTarget target (some id)) (.unknownCapability target id)
  | incomplete (active : dialog.wizard.closed = false)
      (lacking : dialog.wizard.data.relationship = none ∨ dialog.wizard.data.target = none ∨
        dialog.wizard.data.name = none) :
      Refuses dialog .finish (.incompleteSelection .relationship)

theorem refuses_closed_iff (dialog : WizardDialog) (action : Action)
    (refusable : action.refusable = true) (closed : dialog.wizard.closed = true)
    (error : FlowError) : dialog.Refuses action error ↔ error = .flowClosed := by
  constructor
  · intro refuses
    cases refuses with
    | closed => rfl
    | template _ _ active | capability _ _ _ active | incomplete active =>
        cases active.symm.trans closed
  · rintro rfl
    exact .closed action refusable closed

theorem refuses_target_iff (dialog : WizardDialog) (target : String) (capability : Option String)
    (active : dialog.wizard.closed = false) (error : FlowError) :
    dialog.Refuses (.selectTarget target capability) error ↔
      dialog.wizard.filtersFor target capability = .error error := by
  rw [filters_for_failed_iff]
  constructor
  · intro refuses
    cases refuses with
    | closed _ _ closed => cases active.symm.trans closed
    | template _ id _ unknown => exact ⟨id, rfl, .inl ⟨unknown, rfl⟩⟩
    | capability _ id template _ found unknown =>
        exact ⟨id, rfl, .inr ⟨template, found, unknown, rfl⟩⟩
  · rintro ⟨id, rfl, ⟨unknown, rfl⟩ | ⟨template, found, unknown, rfl⟩⟩
    · exact .template target id active unknown
    · exact .capability target id template active found unknown

theorem refuses_finish_iff (dialog : WizardDialog) (active : dialog.wizard.closed = false)
    (error : FlowError) :
    dialog.Refuses .finish error ↔
      dialog.wizard.descriptor? = none ∧ error = .incompleteSelection .relationship := by
  rw [← finish_disabled_iff, finishDisabled, Bool.or_eq_true, Bool.or_eq_true,
    Option.isNone_iff_eq_none, Option.isNone_iff_eq_none, Option.isNone_iff_eq_none, or_assoc]
  constructor
  · intro refuses
    cases refuses with
    | closed _ _ closed => cases active.symm.trans closed
    | incomplete _ lacking => exact ⟨lacking, rfl⟩
  · rintro ⟨lacking, rfl⟩
    exact .incomplete active lacking

/-- An operation fails for the reasons there are to refuse it and for no other. -/
theorem step_failed_iff (dialog : WizardDialog) (action : Action)
    (refusable : action.refusable = true) (error : FlowError) :
    (dialog.step action).2 = .failed error ↔ dialog.Refuses action error := by
  cases active : dialog.wizard.closed with
  | true =>
      rw [step_refused dialog action refusable active, Reply.failed.injEq,
        refuses_closed_iff dialog action refusable active, eq_comm]
  | false =>
      rw [step_performed dialog action refusable]
      cases action with
      | selectRelationship type =>
          rw [relate_performed _ _ type active]
          apply iff_of_false nofun
          intro refuses
          cases refuses with
          | closed _ _ closed => cases active.symm.trans closed
      | setName name =>
          rw [name_performed _ _ name active]
          apply iff_of_false nofun
          intro refuses
          cases refuses with
          | closed _ _ closed => cases active.symm.trans closed
      | selectTarget target capability =>
          rw [refuses_target_iff dialog target capability active]
          cases known : dialog.wizard.filtersFor target capability with
          | error cause =>
              rw [target_failed dialog target capability cause active known]
              simp [replyOf]
          | ok filters =>
              rw [target_performed _ _ target capability filters active known]
              simp [replyOf]
      | finish =>
          rw [finish_performed dialog active, refuses_finish_iff dialog active]
          cases complete : dialog.wizard.descriptor? <;> simp [replyOf, eq_comm]
      | _ => cases refusable

theorem step_done_iff (dialog : WizardDialog) (action : Action)
    (refusable : action.refusable = true) :
    (dialog.step action).2 = .done ↔ ∀ error, ¬ dialog.Refuses action error := by
  simp only [← step_failed_iff dialog action refusable]
  rw [step_performed dialog action refusable]
  rcases (perform action.stages dialog).2 with error | _ <;> simp [replyOf]

theorem step_failed_untouched (dialog : WizardDialog) (action : Action)
    (refusable : action.refusable = true) (error : FlowError)
    (failed : (dialog.step action).2 = .failed error) : (dialog.step action).1 = dialog := by
  rw [step_performed dialog action refusable] at failed ⊢
  apply guarded_untouched action.stages (stages_guarded action) dialog error
  cases performed : (perform action.stages dialog).2 with
  | ok done =>
      rw [performed] at failed
      cases failed
  | error cause =>
      rw [performed] at failed
      cases failed
      rfl

/-- The selection of a preferred match in the middle of an answer is one in its own right. -/
theorem preselect_performed (wizard : Wizard) (modal : OutcomeSlot RelationshipDescriptor)
    (preferred : Option TargetMatch) :
    (perform (preselecting preferred) { wizard, modal }).1 =
      { wizard := wizard.preselect preferred, modal } := by
  rcases preferred with _ | ⟨template, _ | ⟨capability, _ | ⟨another, rest⟩⟩⟩
  · rfl
  · rfl
  · let action := Action.selectTarget template.name (some capability.id)
    have performed : (perform action.stages { wizard, modal }).1 =
        (step { wizard, modal } action).1 :=
      congrArg Prod.fst (step_performed { wizard, modal } action rfl).symm
    rw [preselecting, performed, step, preselect]
    cases wizard.selectTarget template.name (some capability.id) <;> rfl
  · rfl

/-- An answer with targets that reaches an open wizard does what its stages do. -/
theorem apply_performed (dialog : WizardDialog) (resolved : ResolvedTargets)
    (active : dialog.wizard.closed = false) :
    dialog.step (.apply (.resolved resolved)) =
      ((perform (applying resolved) dialog).1, replyOf (perform (applying resolved) dialog).2) := by
  have performed : perform (applying resolved) dialog =
      ((perform (preselecting resolved.preferredMatch)
        { dialog with wizard := dialog.wizard.store resolved }).1, .ok ()) := rfl
  rw [performed, preselect_performed, step, apply_answer_resolved _ _ active]
  rfl

/-- A preferred match that cannot be selected makes no difference to the rest of the answer. -/
theorem preselection_refused (dialog : WizardDialog) (resolved : ResolvedTargets)
    (template : TargetTemplate) (capability : MatchedCapability) (error : FlowError)
    (preferred : resolved.preferredMatch = some { template, capabilities := [capability] })
    (refuses : dialog.Refuses (.selectTarget template.name (some capability.id)) error) :
    dialog.step (.apply (.resolved resolved)) =
      ((dialog.step (.apply (.resolved { resolved with preferredMatch := none }))).1, .done) := by
  cases active : dialog.wizard.closed with
  | true => simp [step, applyAnswer, active, replyOf]
  | false =>
      let stored : WizardDialog := { dialog with wizard := dialog.wizard.store resolved }
      -- What has been stored by then does not bear on the look-up.
      have unknown : stored.wizard.filtersFor template.name (some capability.id) = .error error :=
        (refuses_target_iff dialog _ _ active error).mp refuses
      have failed : (perform (preselecting resolved.preferredMatch) stored).1 = stored := by
        rw [preferred, preselecting, target_failed stored _ _ error active unknown]
      rw [apply_performed _ _ active, apply_performed _ _ active]
      change ((perform (preselecting resolved.preferredMatch) stored).1, _) = (stored, _)
      rw [failed]
      rfl

/-- An operation of a wizard is carried out to its end or, for the reasons that there are to refuse
it, not at all. An answer is taken over to its end even where its preferred match is refused. -/
structure RefusesWhole (dialog : WizardDialog) : Prop where
  performed : ∀ action, action.refusable = true →
    dialog.step action =
      ((perform action.stages dialog).1, replyOf (perform action.stages dialog).2)
  untouched : ∀ action, action.refusable = true → ∀ error,
    (dialog.step action).2 = .failed error → (dialog.step action).1 = dialog
  done : ∀ action, action.refusable = true →
    ((dialog.step action).2 = .done ↔ ∀ error, ¬ dialog.Refuses action error)
  failed : ∀ action, action.refusable = true → ∀ error,
    ((dialog.step action).2 = .failed error ↔ dialog.Refuses action error)
  applied : ∀ resolved, dialog.wizard.closed = false →
    dialog.step (.apply (.resolved resolved)) =
      ((perform (applying resolved) dialog).1, replyOf (perform (applying resolved) dialog).2)
  unselected : ∀ resolved template capability error,
    resolved.preferredMatch = some { template, capabilities := [capability] } →
    dialog.Refuses (.selectTarget template.name (some capability.id)) error →
    dialog.step (.apply (.resolved resolved)) =
      ((dialog.step (.apply (.resolved { resolved with preferredMatch := none }))).1, .done)

theorem refuses_whole (dialog : WizardDialog) : RefusesWhole dialog where
  performed := step_performed dialog
  untouched := step_failed_untouched dialog
  done := step_done_iff dialog
  failed := step_failed_iff dialog
  applied := apply_performed dialog
  unselected := preselection_refused dialog

end WizardDialog

end Wiring
