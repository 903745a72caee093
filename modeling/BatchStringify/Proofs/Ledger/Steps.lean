import BatchStringify.Proofs.Ledger.Delivery
import Mathlib.Logic.Relation

/-!
# Steps in the ledger

Whatever an embedder does, on its own or in a command, the ledger goes through a sequence of few
kinds of steps (`leads_perform`): the debuggee is stopped once more, requests are made and some of
them completed by hand, or a request is made and put on its way. So an invariant of the ledger needs
one case for each of these kinds, and none for the steps of scripts.
-/

namespace BatchStringify

/-- One step of a ledger while no task is taken from the queue. -/
inductive Ledger.Step : Ledger → Ledger → Prop where
  /-- The debuggee was stopped. -/
  | suspend (l : Ledger) (scope : Scope) (id_eq : scope.id = l.scopes.length + 1) :
    Step l { l with scopes := l.scopes ++ [scope] }
  /-- Requests were made, and some first ones of them were completed by hand. -/
  | byHand (l : Ledger) (n : Nat) (done : List (Request × Completion))
    (serials : done.map (·.1.serial) <+: List.range' l.made n) :
    Step l ((l.make n).complete done)
  /-- A request was made and got a task of its own. -/
  | single (l : Ledger) (request : Request) (serial_eq : request.serial = l.made)
    (scope_mem : request.context.scope ∈ l.scopes) :
    Step l (((l.make 1).accept request).enqueue request)
  /-- A request was made and joined the batch of its scope. -/
  | join (l : Ledger) (request : Request) (serial_eq : request.serial = l.made)
    (scope_mem : request.context.scope ∈ l.scopes) (isObject : request.value.objectId?.isSome) :
    Step l (((l.make 1).accept request).join request)

/-- A property of ledgers that every step keeps is kept along any number of steps. -/
theorem Ledger.steps_preserve {P : Ledger → Prop} {l l' : Ledger}
    (step : ∀ l l', Ledger.Step l l' → P l → P l')
    (steps : Relation.ReflTransGen Ledger.Step l l') (hl : P l) : P l' := by
  induction steps with
  | refl => exact hl
  | tail _ hstep ih => exact step _ _ hstep ih

namespace Session

/-- Whether a session leads to another one by steps of the ledger. -/
def Leads (s s' : Session) : Prop := Relation.ReflTransGen Ledger.Step s.ledger s'.ledger

instance : Std.Refl Leads := ⟨fun _ => .refl⟩

instance : IsTrans Session Leads := ⟨fun _ _ _ h h' => h.trans h'⟩

/-- What leaves the ledger alone leads nowhere. -/
theorem Leads.of_eq {s s' : Session} (h : s'.ledger = s.ledger) : Leads s s' := by
  unfold Leads
  rw [h]

/-! ## Pieces of steps -/

theorem leads_changing {f : Session → Session} (h : ∀ s, (f s).ledger = s.ledger) :
    Along Leads (changing f) := fun s => .of_eq (h s)

theorem leads_answering {f : Session → Result × Session} (h : ∀ s, (f s).2.ledger = s.ledger) :
    Along Leads (answering f) := fun s => .of_eq (h s)

/-- A context has a scope of the session. -/
theorem scope_mem_of_contextAt? {s : Session} {place : Place} {context : Context}
    (h : s.contextAt? place = some context) : context.scope ∈ s.suspensions.scopes := by
  unfold contextAt? scopeAt? at h
  rw [Option.map_eq_some_iff] at h
  obtain ⟨scope, hs, rfl⟩ := h
  exact List.mem_of_getElem? hs

/-- A submission makes its request with a fresh number and in a known scope, or nothing happens. -/
theorem leads_withRequest (submission : Submission) {work : Request → Action Result}
    (h : ∀ request s l, request.serial = l.made → request.context.scope ∈ l.scopes →
      s.ledger = l.make 1 →
        Relation.ReflTransGen Ledger.Step l ((work request).run.run s).2.ledger) :
    Along Leads (withRequest submission work) := by
  intro s
  rw [run_withRequest]
  unfold makeRequest
  cases hc : s.contextAt? submission.place with
  | none => exact .refl
  | some context => exact h _ _ s.ledger rfl (scope_mem_of_contextAt? hc) rfl

/-- A submission accepts its request, into a batch or alone. -/
theorem leads_submit (submission : Submission) :
    Along Leads (withRequest submission fun request => changing (·.submit request)) := by
  refine leads_withRequest submission fun request s l hserial hscope hs => ?_
  show Relation.ReflTransGen _ l (s.submit request).ledger
  rcases s.ledger_submit request with ⟨-, h⟩ | ⟨-, h | ⟨ho, h⟩⟩ <;> rw [h, hs]
  · exact .single (by simpa using Ledger.Step.byHand l 1 [] List.nil_prefix)
  · exact .single (.single l request hserial hscope)
  · exact .single (.join l request hserial hscope ho)

/-- A request made by hand is completed or dropped, and never accepted. -/
theorem leads_finish (submission : Submission) (ending : Ending) :
    Along Leads (withRequest submission (finish · ending)) := by
  refine leads_withRequest submission fun request s l hserial _ hs => ?_
  have hnone : Relation.ReflTransGen Ledger.Step l s.ledger := by
    rw [hs]
    exact .single (by simpa using Ledger.Step.byHand l 1 [] List.nil_prefix)
  have hone : ∀ completion, Ledger.Step l (s.ledger.complete [(request, completion)]) := by
    intro completion
    rw [hs]
    exact .byHand l 1 _ (by simp [hserial])
  have hcomplete : ∀ completion, Relation.ReflTransGen Ledger.Step l
      ((do complete request completion; return .done : Action Result).run.run s).2.ledger := by
    intro completion
    have hl := ledger_complete request completion s
    rw [run_bind]
    rcases hr : (complete request completion).run.run s with ⟨_ | _, s'⟩ <;> rw [hr] at hl <;>
      exact .single (hl ▸ hone completion)
  cases ending with
  | individual =>
    have hl := ledger_evaluateIndividually request s
    show Relation.ReflTransGen _ l
      ((do evaluateIndividually request; return .done : Action Result).run.run s).2.ledger
    rw [run_bind]
    rcases hr : (evaluateIndividually request).run.run s with ⟨_ | _, s'⟩ <;> rw [hr] at hl <;>
      exact .single (hl ▸ hone _)
  | succeed text => exact hcomplete _
  | fail message => exact hcomplete _
  | drop => exact hnone
  | describe => exact hnone

/-- The requests of a batch made by hand are numbered one after the other. -/
theorem serials_makePlain (s : Session) (context : Context) (values : List (String × Value)) :
    (s.makePlain context values).1.map (·.serial) = List.range' s.made values.length := by
  apply List.ext_getElem
  · simp [makePlain]
  · intro i hi hi'
    simp [makePlain]

/-- A batch made by hand completes requests that were never accepted. -/
theorem leads_batchByHand (context : Context) (helper : Helper) (values : List (String × Value)) :
    Along Leads (batchByHand context helper values) := by
  intro s
  have hserials := s.serials_makePlain context values
  have hmake : (s.makePlain context values).2.ledger = s.ledger.make values.length := rfl
  rw [run_batchByHand]
  generalize (s.makePlain context values).1 = requests at hserials
  generalize (s.makePlain context values).2 = s₁ at hmake
  have hstep : ∀ (finished : Prop) l', s₁.ledger.Completes requests finished l' →
      Relation.ReflTransGen Ledger.Step s.ledger l' := by
    rintro finished l' ⟨due, hdue, done, rfl, hp, -⟩
    rw [hmake]
    refine .single (.byHand _ _ _ ?_)
    rw [show s.ledger.made = s.made from rfl, ← hserials, ← hdue, List.map_map]
    exact hp.map _
  have h := batchDelivers_evaluateBatch helper context requests s₁
  rcases hr : (evaluateBatch helper context requests).run.run s₁ with
    ⟨payload | ⟨_ | _, left⟩, s₂⟩ <;> rw [hr] at h
  · exact hstep _ _ h
  · obtain ⟨-, hl⟩ := h
    exact hstep False _ (hl ▸ .unstarted _ _)
  · exact hstep _ _ h.2

theorem leads_callDirectly (call : Call) : Along Leads (callDirectly call) := by
  intro s
  have hg : s.link.Grows (fun _ => True) (s.link.perform call).2 := s.link.perform_grows trivial
  show Leads s (callDirectly call s).2
  unfold callDirectly
  split <;> rename_i hr <;> rw [hr] at hg <;> exact .of_eq (s.ledger_withLink hg)

/-! ## Steps and commands -/

/-- Every step of a script leads along steps of the ledger, also if it panics. -/
theorem leads_perform (step : Step) : Along Leads (perform step) := by
  cases step with
  | suspend attachment thread => exact fun s => .single (.suspend s.ledger _ rfl)
  | invalidate scope => exact leads_changing fun s => s.ledger_invalidateAt scope
  | submit submission => exact leads_submit submission
  | submitRequest submission => exact leads_submit submission
  | available place =>
    exact along_withContext place fun context => leads_answering fun s => s.ledger_askProbe context
  | processDetached => exact leads_changing fun s => s.ledger_processDetached
  | invoke command => exact leads_answering fun s => s.ledger_offer command
  | request submission ending => exact leads_finish submission ending
  | evaluateBatch place helper values =>
    exact along_withContext place fun context => leads_batchByHand context helper values
  | probe place =>
    exact along_withContext place fun context => leads_answering fun s =>
      s.ledger_withLink (Probe.ask_grows _ _ _ _)
  | call call => exact leads_callDirectly call
  | _ => exact fun s => .refl

/-- The steps of a command lead the ledger along its steps, whether or not one of them panics. -/
theorem leads_runCommand (name : String) (steps : List Step) (cancelled : Bool) :
    Along Leads (runCommand name steps cancelled) := by
  refine .of_bind (fun s => .of_eq (s.ledger_emit _)) fun _ => ?_
  refine .of_forM fun step _ => ?_
  exact .of_bind (leads_perform step) fun _ s => .of_eq (s.ledger_emit _)

end Session

end BatchStringify
