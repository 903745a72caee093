import BatchStringify.Proofs.ExactlyOnce
import BatchStringify.Proofs.Moves

/-!
# What a session accepts

A request is accepted by the step that submits it, if a sender is left then, and by nothing else: no other step
and no task adds one. So what a run accepts can be read off its steps (`accepted_play`).
-/

namespace BatchStringify.Session

/-- The request that a step submits, if a sender is left. -/
def acceptedBy? (s : Session) : Step → Option Request
  | .submit submission | .submitRequest submission =>
    if s.queue.hasSender then (s.makeRequest submission).1 else none
  | _ => none

/-- The requests that are submitted in some steps while a sender is left. -/
def acceptedIn (steps : List (Session × Step)) : List Request :=
  steps.filterMap fun p => p.1.acceptedBy? p.2

theorem acceptedIn_cons (s : Session) (step : Step) (rest : List (Session × Step)) :
    acceptedIn ((s, step) :: rest) = (s.acceptedBy? step).toList ++ acceptedIn rest := by
  unfold acceptedIn
  rw [List.filterMap_cons]
  cases s.acceptedBy? step <;> rfl

theorem acceptedIn_append (first second : List (Session × Step)) :
    acceptedIn (first ++ second) = acceptedIn first ++ acceptedIn second :=
  List.filterMap_append

/-- Whether nothing was accepted between two sessions. -/
def AcceptsNone (s s' : Session) : Prop := s'.accepted = s.accepted

instance : Std.Refl AcceptsNone := ⟨fun _ => rfl⟩

instance : IsTrans Session AcceptsNone := ⟨fun _ _ _ h h' => Eq.trans h' h⟩

/-! ## Steps -/

variable (s : Session)

theorem accepted_submission (submission : Submission) :
    ((withRequest submission fun request => changing (·.submit request)).run.run s).2.accepted =
      s.accepted ++ (s.acceptedBy? (.submit submission)).toList := by
  have hstep : s.acceptedBy? (.submit submission) =
      if s.queue.hasSender then (s.makeRequest submission).1 else none := rfl
  rw [run_withRequest, hstep]
  unfold makeRequest
  cases s.contextAt? submission.place with
  | none =>
    rw [ite_self]
    exact (List.append_nil _).symm
  | some context =>
    refine (accepted_submit _ _).trans ?_
    show (if s.queue.hasSender then s.accepted ++ [_] else s.accepted) = _
    split
    · rfl
    · exact (List.append_nil _).symm

/-- A step accepts the request that it submits, and most steps submit none. -/
theorem accepted_perform (step : Step) :
    (s.after (.step step)).accepted = s.accepted ++ (s.acceptedBy? step).toList := by
  have hnone : AcceptsNone s (s.after (.step step)) → s.acceptedBy? step = none →
      (s.after (.step step)).accepted = s.accepted ++ (s.acceptedBy? step).toList := by
    intro h hstep
    rw [hstep]
    exact h.trans (List.append_nil _).symm
  have hreacts : Reacts s (s.after (.step step)) → AcceptsNone s (s.after (.step step)) :=
    Reacts.accepted
  cases step with
  | submit submission => exact s.accepted_submission submission
  | submitRequest submission => exact s.accepted_submission submission
  | available place =>
    refine hnone (along_withContext place (fun context s => ?_) s) rfl
    exact congrArg Ledger.accepted (s.ledger_askProbe context)
  | invalidate index =>
    exact hnone (congrArg Ledger.accepted (s.ledger_invalidateAt index)) rfl
  | processDetached => exact hnone (congrArg Ledger.accepted s.ledger_processDetached) rfl
  | invoke command => exact hnone (hreacts (s.reacts_offer command)) rfl
  | request submission ending =>
    have hmade : ∀ s : Session, AcceptsNone s { s with made := s.made + 1 } := fun _ => rfl
    refine hnone (along_withRequest hmade submission (fun request s => ?_) s) rfl
    exact (reacts_finish request ending s).accepted
  | evaluateBatch place helper values =>
    refine hnone (along_withContext place (fun context s => ?_) s) rfl
    exact (reacts_batchByHand context helper values s).accepted
  | probe place =>
    refine hnone (along_withContext place (fun context s => ?_) s) rfl
    have hg := Probe.ask_grows s.settings context s.spareProbe s.link
    exact congrArg Ledger.accepted (s.ledger_withLink hg)
  | call call => exact hnone (hreacts (reacts_callDirectly call s)) rfl
  | _ => exact hnone rfl rfl

theorem accepted_performAll (command : String) (steps : List Step) :
    ((performAll command steps).run.run s).2.accepted =
      s.accepted ++ acceptedIn (stepsIn command steps s) := by
  induction steps generalizing s with
  | nil => exact (List.append_nil _).symm
  | cons step rest ih =>
    have hstep : ((perform step).run.run s).2.accepted = _ := s.accepted_perform step
    rw [run_performAll_cons, stepsIn, acceptedIn_cons]
    rcases hr : (perform step).run.run s with ⟨payload | result, s'⟩
    · rw [hr] at hstep
      exact hstep.trans (congrArg _ (List.append_nil _).symm)
    · rw [hr] at hstep
      have hemit : (s'.emit (.performed command step result)).accepted = s'.accepted :=
        congrArg Ledger.accepted (s'.ledger_emit _)
      rw [ih, hemit, hstep, List.append_assoc]

/-! ## Runs -/

/-- An event accepts the requests that are submitted in its steps. -/
theorem accepted_after (event : Event) :
    (s.after event).accepted = s.accepted ++ acceptedIn (s.stepsAt event) := by
  have hnone : (s.after event).accepted = s.accepted → s.stepsAt event = [] →
      (s.after event).accepted = s.accepted ++ acceptedIn (s.stepsAt event) := by
    intro h hsteps
    rw [h, hsteps]
    exact (List.append_nil _).symm
  cases event with
  | step step =>
    rw [accepted_perform, stepsAt, acceptedIn_cons]
    exact congrArg _ (List.append_nil _).symm
  | turn =>
    cases hw : s.queue.waiting with
    | nil => exact hnone (by rw [after_turn_of_nil hw]) (by simp [stepsAt, hw])
    | cons task rest =>
      cases task with
      | flush context =>
        exact hnone (reacts_turn hw rfl).accepted (by simp [stepsAt, hw, stepsOf])
      | individual request =>
        exact hnone (reacts_turn hw rfl).accepted (by simp [stepsAt, hw, stepsOf])
      | command command scope =>
        obtain ⟨steps, hsteps, hafter⟩ := after_turn_of_command hw
        have hbegun : ((s.taken rest).begun (.command command scope)).accepted = s.accepted := by
          unfold begun
          cases Task.start? _ _ with
          | none => rfl
          | some start => exact congrArg Ledger.accepted ((s.taken rest).ledger_emit _)
        have hall := accepted_performAll ((s.taken rest).begun (.command command scope))
          command.name steps
        rw [hsteps, ← hbegun, ← hall]
        rcases hafter with hafter | ⟨cancelled, payload, hafter⟩ <;> rw [hafter]
        exact congrArg Ledger.accepted (ledger_note_panic _ cancelled payload)
  | dropSender => exact hnone (congrArg Ledger.accepted s.ledger_dropOwnSender) rfl
  | dropQueue => exact hnone rfl rfl

/-- A run accepts the requests that are submitted in its steps, in their order. -/
theorem accepted_play (events : List Event) :
    (s.play events).accepted = s.accepted ++ acceptedIn (s.steps events) := by
  induction events generalizing s with
  | nil => exact (List.append_nil _).symm
  | cons event rest ih =>
    rw [play_cons, ih, accepted_after, steps, acceptedIn_append, List.append_assoc]

end BatchStringify.Session
