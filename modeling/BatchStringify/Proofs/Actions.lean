import BatchStringify.Session.Perform
import Mathlib.Order.Defs.Unbundled

/-!
# What actions do

An action turns a session into a result and a session. The equations here run the pieces that actions
are made of, so that later proofs open no monad. `Along R` says that an action only leads along `R`,
whether or not it ends with a panic; for a reflexive and transitive `R` it is closed under everything
that actions are composed with.
-/

namespace BatchStringify.Session

variable {α β γ : Type}

/-- What each of several things leaves as it is, all of them do one after the other. -/
theorem foldl_keeps (view : Session → β) {f : Session → γ → Session}
    (keeps : ∀ s x, view (f s x) = view s) (xs : List γ) (s : Session) :
    view (xs.foldl f s) = view s :=
  List.foldlRecOn (motive := fun s' => view s' = view s) xs f rfl
    fun s' hs x _ => (keeps s' x).trans hs

/-! ## Running the pieces -/

/-- An action goes on only from a result; a panic ends it, and what was done stays done. -/
theorem run_bind (a : Action α) (f : α → Action β) (s : Session) :
    (a >>= f).run.run s = match a.run.run s with
      | (.ok x, s') => (f x).run.run s'
      | (.error payload, s') => (.error payload, s') := by
  rw [ExceptT.run_bind, StateT.run_bind]
  rcases a.run.run s with ⟨_ | _, _⟩ <;> rfl

@[simp] theorem run_pure (x : α) (s : Session) : (pure x : Action α).run.run s = (.ok x, s) := rfl

@[simp] theorem run_throw (payload : Panic) (s : Session) :
    (throw payload : Action α).run.run s = (.error payload, s) := rfl

@[simp] theorem run_get (s : Session) : (get : Action Session).run.run s = (.ok s, s) := rfl

@[simp] theorem run_modify (f : Session → Session) (s : Session) :
    (modify f : Action PUnit).run.run s = (.ok ⟨⟩, f s) := rfl

@[simp] theorem run_modifyGet (f : Session → α × Session) (s : Session) :
    (modifyGet f : Action α).run.run s = (.ok (f s).1, (f s).2) := rfl

@[simp] theorem run_onLink (work : Link → α × Link) (s : Session) :
    (onLink work).run.run s = (.ok (work s.link).1, s.withLink (work s.link).2) := rfl

/-- The session after completing a request does not depend on whether the sink panics. -/
theorem run_complete (request : Request) (completion : Completion) (s : Session) :
    (complete request completion).run.run s =
      (match request.sink.panic with
        | some payload => .error payload
        | none => .ok (),
        afterSink request.sink (s.record (.completed request completion))) := by
  unfold complete
  rw [run_bind]
  simp only [run_modify]
  cases request.sink.panic <;> rfl

theorem run_evaluateIndividually (request : Request) (s : Session) :
    (evaluateIndividually request).run.run s =
      (complete request (.ofOutcome
        (individualText request.value request.context.scope.thread s.link).1)).run.run
        (s.withLink (individualText request.value request.context.scope.thread s.link).2) := by
  unfold evaluateIndividually
  rw [run_bind]
  rfl

/-- Taking the batch of a scope comes first, whatever becomes of its requests. -/
theorem run_flush (context : Context) (s : Session) :
    (flush context).run.run s =
      if (s.takePending context.scope.id).1.isEmpty then
        (.ok (), (s.takePending context.scope.id).2)
      else (evaluateAll context (s.takePending context.scope.id).1).run.run
        (s.takePending context.scope.id).2 := by
  unfold flush
  rw [run_bind]
  simp only [run_modifyGet]
  split <;> rfl

/-- An attempt changes nothing but the link. -/
theorem run_attemptBatch {helper : Helper} {context : Context} {requests : List Request}
    {s : Session} {result : Except Panic (Except BatchFault (List Reply.Entry))} {link : Link}
    (h : (Attempt.evaluate s.settings helper context (requests.map (·.value))).run.run.run s.link =
      (result, link)) :
    (attemptBatch helper context requests).run.run s = (result, s.withLink link) :=
  congrArg (fun p : Except Panic (Except BatchFault (List Reply.Entry)) × Link =>
    (p.1, s.withLink p.2)) h

/-- The branches of an evaluation with one call, by what came of the attempt. -/
theorem run_evaluateBatch (helper : Helper) (context : Context) (requests : List Request)
    (s : Session) :
    (evaluateBatch helper context requests).run.run s =
      match (attemptBatch helper context requests).run.run s with
      | (.error payload, s') => (.error payload, s')
      | (.ok (.error fault), s') =>
        (.ok (false, requests), s'.note (.batchFailed context.scope.id requests.length fault))
      | (.ok (.ok entries), s') =>
        match (deliver requests entries).run.run s' with
        | (.error payload, s'') => (.error payload, s'')
        | (.ok (), s'') => (.ok (true, []), s'') := by
  unfold evaluateBatch
  rw [run_bind]
  rcases (attemptBatch helper context requests).run.run s with ⟨_ | _ | entries, s'⟩
  · rfl
  · rfl
  · simp only [run_bind]
    rcases (deliver requests entries).run.run s' with ⟨_ | _, s''⟩ <;> rfl

/-- Requests are evaluated with one call if the probe knows the helper. -/
theorem run_evaluateTogether (context : Context) (requests : List Request) (s : Session) :
    (evaluateTogether context requests).run.run s =
      match s.probe.helper? with
      | some helper => (evaluateBatch helper context requests).run.run s
      | none => (.ok (false, requests), s) := by
  unfold evaluateTogether
  rw [run_bind]
  simp only [run_get]
  cases s.probe.helper? <;> rfl

/-- What is left after that is evaluated one by one. -/
theorem run_evaluateAll (context : Context) (requests : List Request) (s : Session) :
    (evaluateAll context requests).run.run s =
      match (evaluateTogether context requests).run.run s with
      | (.error payload, s') => (.error payload, s')
      | (.ok (true, _), s') => (.ok (), s')
      | (.ok (false, left), s') => (left.forM evaluateIndividually).run.run s' := by
  unfold evaluateAll
  rw [run_bind]
  rcases (evaluateTogether context requests).run.run s with ⟨_ | ⟨_ | _, left⟩, s'⟩ <;> rfl

/-- Without its scope a submission does nothing. -/
theorem run_withRequest (submission : Submission) (work : Request → Action Result) (s : Session) :
    (withRequest submission work).run.run s =
      match s.makeRequest submission with
      | (some request, s') => (work request).run.run s'
      | (none, s') => (.ok .done, s') := by
  unfold withRequest
  rw [run_bind]
  simp only [run_modifyGet]
  rcases s.makeRequest submission with ⟨_ | _, _⟩ <;> rfl

theorem run_withContext (place : Place) (work : Context → Action Result) (s : Session) :
    (withContext place work).run.run s =
      match s.contextAt? place with
      | some context => (work context).run.run s
      | none => (.ok .done, s) := by
  unfold withContext
  rw [run_bind]
  simp only [run_get]
  cases s.contextAt? place <;> rfl

/-- A batch made by hand tells whether it was completed, and which values are left. -/
theorem run_batchByHand (context : Context) (helper : Helper) (values : List (String × Value))
    (s : Session) :
    (batchByHand context helper values).run.run s =
      match (evaluateBatch helper context (s.makePlain context values).1).run.run
        (s.makePlain context values).2 with
      | (.error payload, s') => (.error payload, s')
      | (.ok (evaluated, left), s') => (.ok (.batch evaluated (left.map (·.value))), s') := by
  unfold batchByHand
  rw [run_bind]
  simp only [run_modifyGet, run_bind]
  rcases (evaluateBatch helper context (s.makePlain context values).1).run.run
    (s.makePlain context values).2 with ⟨_ | ⟨_, _⟩, _⟩ <;> rfl

/-! ## Submissions -/

/-- A value that is no object is sent with a task of its own, and the helper is not looked for. -/
theorem accept_of_local {request : Request} (h : request.value.objectId? = none) (s : Session) :
    s.accept request = s.invoke (.individual request) := by
  unfold accept
  rw [h]

/-- An object joins a batch if the helper is there. -/
theorem accept_of_object {request : Request} (h : request.value.objectId?.isSome) (s : Session) :
    s.accept request = if (s.askProbe request.context).1
      then (s.askProbe request.context).2.join request
      else (s.askProbe request.context).2.invoke (.individual request) := by
  obtain ⟨id, hid⟩ := Option.isSome_iff_exists.1 h
  unfold accept
  rw [hid]
  dsimp only
  rcases s.askProbe request.context with ⟨_ | _, _⟩ <;> rfl

/-- A request that is put on its way gets a task of its own, before or after the probe was asked, or
it joins the batch of its scope, and then it refers to an object and the probe allows batches. -/
theorem accept_cases (s : Session) (request : Request) :
    (∃ s', (s' = s ∨ s' = (s.askProbe request.context).2) ∧
      s.accept request = s'.invoke (.individual request)) ∨
    request.value.objectId?.isSome ∧ (s.askProbe request.context).1 = true ∧
      s.accept request = (s.askProbe request.context).2.join request := by
  by_cases ho : request.value.objectId?.isSome
  · rw [accept_of_object ho]
    by_cases ha : (s.askProbe request.context).1 = true
    · exact .inr ⟨ho, ha, if_pos ha⟩
    · exact .inl ⟨_, .inr rfl, if_neg ha⟩
  · rw [Option.not_isSome_iff_eq_none] at ho
    exact .inl ⟨s, .inl rfl, accept_of_local ho s⟩

/-- While the queue is open, a task that is sent waits in it. -/
theorem invoke_of_open {s : Session} (h : s.queue.isOpen = true) (task : Task) :
    s.invoke task = { s with queue := s.queue.send task } := by
  unfold invoke
  dsimp only
  rw [if_pos h]

/-- After that it is counted, noted and gone. -/
theorem invoke_of_closed {s : Session} (h : s.queue.isOpen = false) (task : Task) :
    s.invoke task = { s with queue := s.queue.send task }.note .commandDropped := by
  unfold invoke
  dsimp only
  rw [if_neg (Bool.eq_false_iff.1 h)]

theorem submit_of_hasSender {s : Session} (h : s.queue.hasSender = true) (request : Request) :
    s.submit request = (s.record (.accepted request)).accept request := by
  rw [submit, h]
  rfl

/-! ## Leading along a relation -/

/-- Whether an action takes each session to one that it is related to, also if it panics. -/
def Along (R : Session → Session → Prop) (a : Action α) : Prop := ∀ s, R s (a.run.run s).2

namespace Along

variable {R : Session → Session → Prop}

theorem of_pure [Std.Refl R] (x : α) : Along R (pure x : Action α) := fun s => Std.Refl.refl s

theorem of_throw [Std.Refl R] (payload : Panic) : Along R (throw payload : Action α) :=
  fun s => Std.Refl.refl s

/-- Actions in a row lead along a relation if each of them does. -/
theorem of_bind [IsTrans Session R] {a : Action α} {f : α → Action β} (ha : Along R a)
    (hf : ∀ x, Along R (f x)) : Along R (a >>= f) := by
  intro s
  have h := ha s
  rw [run_bind]
  rcases hs : a.run.run s with ⟨payload | x, s'⟩
  · rwa [hs] at h
  · rw [hs] at h
    exact IsTrans.trans _ _ _ h (hf x s')

/-- So does an action for each of several things. -/
theorem of_forM [Std.Refl R] [IsTrans Session R] {f : γ → Action PUnit} {xs : List γ}
    (h : ∀ x ∈ xs, Along R (f x)) : Along R (xs.forM f) := by
  induction xs with
  | nil => exact of_pure _
  | cons x rest ih =>
    refine of_bind (h x List.mem_cons_self) fun _ => ?_
    exact ih fun y hy => h y (List.mem_cons_of_mem _ hy)

end Along

section Steps

variable {R : Session → Session → Prop} [Std.Refl R]

/-- Without its scope an action does nothing. -/
theorem along_withContext (place : Place) {work : Context → Action Result}
    (h : ∀ context, Along R (work context)) : Along R (withContext place work) := by
  intro s
  rw [run_withContext]
  cases s.contextAt? place with
  | none => exact Std.Refl.refl s
  | some context => exact h context s

variable [IsTrans Session R]

/-- A request is counted as made before anything is done with it. -/
theorem along_withRequest (made : ∀ s : Session, R s { s with made := s.made + 1 })
    (submission : Submission) {work : Request → Action Result}
    (h : ∀ request, Along R (work request)) : Along R (withRequest submission work) := by
  intro s
  rw [run_withRequest]
  unfold makeRequest
  cases s.contextAt? submission.place with
  | none => exact Std.Refl.refl s
  | some context => exact IsTrans.trans _ _ _ (made s) (h _ _)

/-- A request that is brought to its end by hand is evaluated on its own, completed, or dropped. -/
theorem along_finish {request : Request} {ending : Ending}
    (completes : ∀ completion, Along R (complete request completion))
    (alone : ending = .individual → Along R (evaluateIndividually request)) :
    Along R (finish request ending) := by
  cases ending with
  | individual => exact .of_bind (alone rfl) fun _ => .of_pure _
  | succeed text => exact .of_bind (completes _) fun _ => .of_pure _
  | fail message => exact .of_bind (completes _) fun _ => .of_pure _
  | drop => exact .of_pure _
  | describe => exact .of_pure _

end Steps

end BatchStringify.Session
