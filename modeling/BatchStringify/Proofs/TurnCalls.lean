import BatchStringify.Proofs.HelperHandles

/-!
# The calls of a turn

Each call that a session makes in a turn is made for the requests of the turn, and how many are made can be
told from the way in which the requests are evaluated. One request that is evaluated on its own takes one call
of `toString`, if it takes a call at all; a batch attempt takes no call of `toString` and runs one method at
most, since it is not repeated. So the calls of `toString` in a turn are those of the requests that are
evaluated on their own, one for each and in their order (`displays_after`), and calls that only batches need are
made by a flush (`flush_of_batchCall`).
-/

namespace BatchStringify

/-- Whether only batches need a call: it creates or fills an array, runs a method by its name, reads a string
or pins an object or lets it go. -/
def Call.isBatchCall : Call → Bool
  | .newArray _ _ | .setArrayValues _ _ | .invokeStatic _ _ _ _ | .stringValue _
  | .disableCollection _ | .enableCollection _ => true
  | _ => false

theorem Call.isDisplay_of_isLookUp {call : Call} (h : call.isLookUp = true) :
    call.isDisplay = false := by
  cases call with
  | invokeToString thread id => cases h
  | _ => rfl

/-- Neither `toString` nor looking things up is a call that only batches make. -/
theorem Call.isBatchCall_eq_false {call : Call} (h : call.isDisplay = true ∨ call.isLookUp = true) :
    call.isBatchCall = false := by
  cases call with
  | findClass thread name loader => rfl
  | findMethod owner name signature => rfl
  | invokeToString thread id => rfl
  | _ => rcases h with h | h <;> cases h

theorem Call.isBatchCall_of_isInvocation {call : Call} (h : call.isInvocation = true) :
    call.isBatchCall = true := by
  cases call with
  | invokeStatic thread owner method args => rfl
  | _ => cases h

/-- The call that a request takes when it is evaluated on its own: only an object that was seen in a scope with
a thread takes one. -/
def Request.displayCall? (request : Request) : Option Call :=
  match request.value.objectId?, request.context.scope.thread with
  | some id, some thread => some (.invokeToString thread id)
  | _, _ => none

/-- Whether a step makes calls that the session does not make by itself: calls of the embedder, and requests,
batches and probes that the embedder evaluates by hand. -/
def Step.isByEmbedder : Step → Bool
  | .call _ | .evaluateBatch _ _ _ | .probe _ | .request _ .individual => true
  | _ => false

namespace Session

/-- The calls of a kind, in the order in which they were made. -/
def callsOf (kind : Call → Bool) (s : Session) : List Call := (s.exchanges.map (·.1)).filter kind

variable {s s' : Session} {kind : Call → Bool}

theorem callsOf_of_eq (h : s'.exchanges = s.exchanges) : s'.callsOf kind = s.callsOf kind := by
  rw [callsOf, h, callsOf]

/-- The calls of a kind grow by those among the new calls. -/
theorem callsOf_of_exchanges {more : List (Call × Outcome)}
    (h : s'.exchanges = s.exchanges ++ more) :
    s'.callsOf kind = s.callsOf kind ++ (more.map (·.1)).filter kind := by
  rw [callsOf, h, List.map_append, List.filter_append, callsOf]

/-- If no call of a kind is allowed, none is made. -/
theorem callsOf_of_makes {allowed : Call × Outcome → Prop} (h : Makes allowed s s')
    (none_allowed : ∀ x, allowed x → kind x.1 = false) : s'.callsOf kind = s.callsOf kind := by
  obtain ⟨more, hmore, hallowed⟩ := h
  have hnone : (more.map (·.1)).filter kind = [] := by
    rw [List.filter_eq_nil_iff]
    intro call hcall
    obtain ⟨x, hx, rfl⟩ := List.mem_map.1 hcall
    rw [none_allowed x (hallowed x hx)]
    exact Bool.false_ne_true
  rw [callsOf_of_exchanges hmore, hnone, List.append_nil]

/-! ## Steps -/

/-- A step that makes no calls for the embedder only looks up the helper, and only if it submits or asks. -/
theorem makes_ownStep {step : Step} (own : step.isByEmbedder = false) (s : Session) :
    Makes (fun x => x.1.isLookUp = true ∧ step.isSubmission = true) s (s.after (.step step)) := by
  have hsubmission : step.isSubmission = true →
      Makes (fun x => x.1.isLookUp = true ∧ step.isSubmission = true) s (s.after (.step step)) :=
    fun hs => Makes.mono (looksUp_submission hs s) fun _ hx => ⟨hx, hs⟩
  cases step with
  | submit submission => exact hsubmission rfl
  | submitRequest submission => exact hsubmission rfl
  | available place => exact hsubmission rfl
  | call call => cases own
  | evaluateBatch place helper values => cases own
  | probe place => cases own
  | invalidate index =>
    show Makes _ s (s.invalidateAt index)
    rw [invalidateAt_eq]
    exact .of_eq rfl
  | processDetached => exact .of_eq (exchanges_note s _)
  | invoke command => exact .of_eq (exchanges_offer s command)
  | request submission ending =>
    refine along_withRequest (fun _ => .of_eq rfl) submission (fun request => ?_) s
    refine along_finish (fun completion s => .of_eq (exchanges_complete request completion s)) ?_
    rintro rfl
    cases own
  | _ => exact .of_eq rfl

/-! ## Evaluation one by one -/

/-- Completing a request calls nothing. -/
theorem displays_complete (request : Request) (completion : Completion) (s : Session) :
    ((complete request completion).run.run s).2.callsOf Call.isDisplay =
      s.callsOf Call.isDisplay :=
  callsOf_of_eq (exchanges_complete request completion s)

/-- A request that is evaluated on its own takes its call, if it has one, and no other call of `toString`. -/
theorem displays_evaluateIndividually (request : Request) (s : Session) :
    ((evaluateIndividually request).run.run s).2.callsOf Call.isDisplay =
      s.callsOf Call.isDisplay ++ request.displayCall?.toList := by
  rw [run_evaluateIndividually, displays_complete]
  unfold Request.displayCall? individualText
  cases hv : request.value with
  | object tag id =>
    cases ht : request.context.scope.thread with
    | none => simp [callsOf, exchanges, withLink, Value.objectId?, Value.localText?]
    | some thread =>
      simp [callsOf, exchanges, withLink, Value.objectId?, Value.localText?, Link.invokeToString,
        Link.exchanged, Link.record, Entry.exchange?, Call.isDisplay]
  | _ => simp [callsOf, exchanges, withLink, Value.objectId?, Value.localText?]

/-- Requests that are all evaluated on their own take their calls in their order. -/
theorem displays_individually {requests : List Request} {s s' : Session}
    (h : (requests.forM evaluateIndividually).run.run s = (.ok (), s')) :
    s'.callsOf Call.isDisplay =
      s.callsOf Call.isDisplay ++ requests.filterMap Request.displayCall? := by
  induction requests generalizing s with
  | nil =>
    cases h
    exact (List.append_nil _).symm
  | cons request rest ih =>
    have hcons : ((request :: rest).forM evaluateIndividually).run.run s = _ :=
      run_bind (evaluateIndividually request) (fun _ => rest.forM evaluateIndividually) s
    have hfirst := displays_evaluateIndividually request s
    rw [hcons] at h
    rcases hr : (evaluateIndividually request).run.run s with ⟨payload | _, t⟩
    · rw [hr] at h
      cases h
    · rw [hr] at h hfirst
      rw [ih h, hfirst, List.append_assoc]
      congr 1
      cases hc : request.displayCall? with
      | none => rw [List.filterMap_cons_none hc]; rfl
      | some call => rw [List.filterMap_cons_some hc]; rfl

/-- Evaluating requests one by one takes no calls but of `toString`. -/
theorem makes_evaluateIndividually (request : Request) :
    Along (Makes fun x => x.1.isDisplay = true) (evaluateIndividually request) :=
  along_evaluateIndividually (fun hg => makes_withLink hg) fun _ _ =>
    .of_eq (exchanges_complete _ _ _)

/-- Evaluating requests one by one calls `toString` and nothing else. -/
theorem makes_individually (requests : List Request) :
    Along (Makes fun x => x.1.isDisplay = true) (requests.forM evaluateIndividually) :=
  .of_forM fun request _ => makes_evaluateIndividually request

/-! ## Batch attempts -/

/-- The entries that an attempt came back with, if it did. -/
def answerOf : Except Panic (Except BatchFault (List Reply.Entry)) → Option (List Reply.Entry)
  | .ok (.ok entries) => some entries
  | _ => none

/-- The entries that a batch attempt with the known helper comes back with, if it is made and answered. -/
def answer? (s : Session) (context : Context) (requests : List Request) :
    Option (List Reply.Entry) :=
  s.probe.helper?.bind fun helper => answerOf
    ((Attempt.evaluate s.settings helper context (requests.map (·.value))).run.run.run s.link).1

end Session

namespace Attempt

variable {α β : Type}

/-- How many methods were run by their names, as the journal of a link tells. -/
def invocations (link : Link) : Nat :=
  (link.journal.filterMap Entry.exchange?).countP fun x => x.1.isInvocation

/-- Whether an attempt runs at most a number of methods by their names, however it ends. -/
def Invokes (n : Nat) (a : Attempt α) : Prop :=
  ∀ link : Link, invocations (a.run.run.run link).2 ≤ invocations link + n

/-- Calls of other kinds and notices run no method by its name. -/
theorem invocations_of_grows {link link' : Link}
    (h : link.Grows (fun call => call.isInvocation = false) link') :
    invocations link' = invocations link := by
  obtain ⟨more, hmore, haside⟩ := h.journal
  have hnone : (more.filterMap Entry.exchange?).countP (fun x => x.1.isInvocation) = 0 := by
    rw [List.countP_eq_zero]
    intro x hx
    obtain ⟨entry, hentry, hx⟩ := List.mem_filterMap.1 hx
    have ha := haside entry hentry
    cases entry with
    | exchange call outcome =>
      obtain rfl := Option.some.inj hx
      exact ha ▸ Bool.false_ne_true
    | _ => cases hx
  rw [invocations, hmore, List.filterMap_append, List.countP_append, hnone]
  rfl

/-- Attempts in a row ask the helper at most as often as both together. -/
theorem Invokes.of_bind {n m : Nat} {a : Attempt α} {f : α → Attempt β} (ha : Invokes n a)
    (hf : ∀ x, Invokes m (f x)) : Invokes (n + m) (a >>= f) := by
  intro link
  have h := ha link
  rw [run_bind]
  rcases hr : a.run.run.run link with ⟨payload | fault | x, l⟩ <;> rw [hr] at h <;>
    dsimp only at h ⊢
  · omega
  · omega
  · have hrest := hf x l
    omega

/-- Work by which a link grows without a method that is run by its name. -/
theorem Invokes.of_grows {a : Attempt α} (h : Grows (fun call => call.isInvocation = false) a) :
    Invokes 0 a := fun link => Nat.le_of_eq (invocations_of_grows (h link))

/-- The helper is asked once, without another try. -/
theorem invokes_invoke (helper : Helper) (thread : ThreadId) (array : ObjectId) :
    Invokes 1 (invoke helper thread array) := by
  intro link
  have hone : invocations (link.invokeStatic thread helper.owner helper.method
      [.object Value.arrayTag array]).2 = invocations link + 1 := by
    simp [invocations, Link.invokeStatic, Link.exchanged, Link.record, Entry.exchange?,
      Call.isInvocation, List.countP_append]
  show invocations (invoke helper thread array link).2 ≤ _
  unfold invoke
  rcases hr : link.invokeStatic thread helper.owner helper.method [.object Value.arrayTag array] with
    ⟨_ | _ | _, l⟩ <;> rw [hr] at hone <;> exact Nat.le_of_eq hone

/-- An attempt runs one method at most by its name. -/
theorem invokes_evaluate (settings : DebuggerSettings) (helper : Helper) (context : Context)
    (values : List Value) : Invokes 1 (evaluate settings helper context values) := by
  unfold evaluate
  cases context.scope.thread with
  | none => exact fun link => Nat.le_succ _
  | some thread =>
    have hfind : Invokes 0 (ask (·.findClass thread settings.arrayType context.loader)
        .arrayTypeUnavailable) := .of_grows (.of_ask _ fun link => link.findClass_grows rfl)
    refine hfind.of_bind (m := 1) fun elements => ?_
    have hcreate : Invokes 0 (ask (·.newArray elements values.length)) :=
      .of_grows (.of_ask _ fun link => link.newArray_grows rfl)
    refine hcreate.of_bind (m := 1) fun array => ?_
    have hstore : Invokes 0 (ask (·.setArrayValues array values)) :=
      .of_grows (.of_ask _ fun link => link.setArrayValues_grows rfl)
    refine hstore.of_bind (m := 1) fun _ => ?_
    refine (invokes_invoke helper thread array).of_bind (m := 0) fun reply => ?_
    have hread : Invokes 0 (replyText reply) :=
      .of_grows (replyText_grows (fun _ => rfl) (fun _ => rfl) (fun _ => rfl) reply)
    refine hread.of_bind (m := 0) fun text => ?_
    exact fun link => Nat.le_refl _

end Attempt

namespace Session

variable {s s' : Session}

theorem length_callsOf_isInvocation (s : Session) :
    (s.callsOf Call.isInvocation).length = Attempt.invocations s.link := by
  rw [callsOf, ← List.countP_eq_length_filter, List.countP_map]
  rfl

/-- Whether at most a batch attempt was made between two sessions. -/
structure Attempts (s s' : Session) : Prop where
  displays : s'.callsOf Call.isDisplay = s.callsOf Call.isDisplay
  once : (s'.callsOf Call.isInvocation).length ≤ (s.callsOf Call.isInvocation).length + 1
  ledger : s'.ledger = s.ledger
  setup : s.link.debuggee.SameSetup s'.link.debuggee

/-- Doing nothing is no attempt. -/
theorem Attempts.refl (s : Session) : Attempts s s := ⟨rfl, Nat.le_succ _, rfl, .refl _⟩

/-- An attempt asks the helper at most once and makes no call of `toString`. -/
theorem attempts_withLink {helper : Helper} {context : Context} {values : List Value}
    {result : Except Panic (Except BatchFault (List Reply.Entry))} {link : Link}
    (h : (Attempt.evaluate s.settings helper context values).run.run.run s.link = (result, link)) :
    Attempts s (s.withLink link) := by
  have hg := Attempt.evaluate_grows s.settings helper context values s.link
  have honce := Attempt.invokes_evaluate s.settings helper context values s.link
  rw [h] at hg honce
  refine ⟨callsOf_of_makes (makes_withLink hg) fun x hx => Call.isDisplay_of_isAttempt hx, ?_,
    ledger_withLink s hg, hg.setup⟩
  rwa [length_callsOf_isInvocation, length_callsOf_isInvocation]

/-- The ways in which the evaluation of requests goes, by what becomes of the batch attempt. -/
inductive Evaluates (context : Context) (requests : List Request) (s : Session)
    (run : Except Panic Unit × Session) : Prop where
  /-- There was no attempt, or it ended with a fault. -/
  | alone {u : Session} (attempts : Attempts s u) (unanswered : s.answer? context requests = none)
    (run_eq : run = (requests.forM evaluateIndividually).run.run u)
  | replied {u : Session} {entries : List Reply.Entry} (attempts : Attempts s u)
    (answered : s.answer? context requests = some entries)
    (length_eq : entries.length = requests.length)
    (run_eq : run = (deliver requests entries).run.run u)
  | panicked {u : Session} {payload : Panic} (attempts : Attempts s u)
    (run_eq : run = (.error payload, u))

/-- Without a helper there is no answer. -/
theorem answer?_of_unknown (h : s.probe.helper? = none) (context : Context)
    (requests : List Request) : s.answer? context requests = none := by
  rw [answer?, h]
  rfl

/-- With one the answer is what its attempt comes to. -/
theorem answer?_of_known {helper : Helper} {context : Context} {requests : List Request}
    {result : Except Panic (Except BatchFault (List Reply.Entry))} {link : Link}
    (known : s.probe.helper? = some helper)
    (h : (Attempt.evaluate s.settings helper context (requests.map (·.value))).run.run.run s.link =
      (result, link)) :
    s.answer? context requests = answerOf result := by
  rw [answer?, known, Option.bind_some, h]

/-- An evaluation goes one of these ways. -/
theorem evaluates (context : Context) (requests : List Request) (s : Session) :
    Evaluates context requests s ((evaluateAll context requests).run.run s) := by
  rw [run_evaluateAll, run_evaluateTogether]
  cases hp : s.probe.helper? with
  | none => exact .alone (.refl s) (answer?_of_unknown hp context requests) rfl
  | some helper =>
    dsimp only
    rcases hr : (Attempt.evaluate s.settings helper context (requests.map (·.value))).run.run.run
      s.link with ⟨payload | fault | entries, link⟩ <;>
      have hattempts := attempts_withLink hr <;>
      have hanswer := answer?_of_known hp hr <;>
      rw [run_evaluateBatch, run_attemptBatch hr] <;> dsimp only
    · exact .panicked hattempts rfl
    · -- the notice of the fault is no call and concerns no request
      have hexchanges := exchanges_note (s.withLink link)
        (.batchFailed context.scope.id requests.length fault)
      refine .alone ⟨?_, ?_, (ledger_note _ rfl).trans hattempts.ledger, hattempts.setup⟩ hanswer rfl
      · exact (callsOf_of_eq hexchanges).trans hattempts.displays
      · rw [callsOf_of_eq hexchanges]
        exact hattempts.once
    · have hlength := (Attempt.evaluate_eq_entries_iff.1 hr).length_eq
      rw [List.length_map] at hlength
      refine .replied hattempts hanswer hlength ?_
      rcases (deliver requests entries).run.run (s.withLink link) with ⟨_ | _, _⟩ <;> rfl

/-- Completing requests from a reply takes no calls. -/
theorem exchanges_deliver (requests : List Request) (entries : List Reply.Entry) (s : Session) :
    ((deliver requests entries).run.run s).2.exchanges = s.exchanges := by
  have hdelivers : Along (Makes fun _ => False) (deliver requests entries) :=
    .of_forM fun p _ t => .of_eq (exchanges_complete _ _ t)
  obtain ⟨more, hmore, hnone⟩ := hdelivers s
  rw [hmore, List.eq_nil_iff_forall_not_mem.2 hnone, List.append_nil]

/-- However requests are evaluated, one method at most is run by its name. -/
theorem Evaluates.once {context : Context} {requests : List Request}
    {run : Except Panic Unit × Session} (h : Evaluates context requests s run) :
    (run.2.callsOf Call.isInvocation).length ≤ (s.callsOf Call.isInvocation).length + 1 := by
  cases h with
  | @alone u attempts unanswered run_eq =>
    have hquiet : run.2.callsOf Call.isInvocation = u.callsOf Call.isInvocation := by
      rw [run_eq]
      exact callsOf_of_makes (makes_individually requests u) fun x hx =>
        isInvocation_eq_false (.inl hx)
    rw [hquiet]
    exact attempts.once
  | @replied u entries attempts answered length_eq run_eq =>
    rw [run_eq, callsOf_of_eq (exchanges_deliver requests entries u)]
    exact attempts.once
  | panicked attempts run_eq =>
    rw [run_eq]
    exact attempts.once

/-- The requests that are evaluated on their own: all of them, unless a reply answers for them. -/
def aloneOf (requests : List Request) (answer : Option (List Reply.Entry)) : List Request :=
  if answer.isSome then [] else requests

/-- The requests that are completed from a reply, each with the entry at its place. -/
def repliedOf (requests : List Request) (answer : Option (List Reply.Entry)) :
    List (Request × Reply.Entry) :=
  requests.zip (answer.getD [])

/-- What the requests of an evaluation come to. -/
def outcomeOf (displays : Table ObjectId (Except RemoteError String)) (requests : List Request)
    (answer : Option (List Reply.Entry)) : List (Request × Completion) :=
  (aloneOf requests answer).map (Request.alone displays) ++
    (repliedOf requests answer).map fun p => p.1.answered p.2

theorem aloneOf_none (requests : List Request) : aloneOf requests none = requests := rfl

theorem aloneOf_nil (answer : Option (List Reply.Entry)) : aloneOf [] answer = [] := ite_self []

theorem outcomeOf_nil (displays : Table ObjectId (Except RemoteError String))
    (answer : Option (List Reply.Entry)) : outcomeOf displays [] answer = [] := by
  simp [outcomeOf, aloneOf_nil, repliedOf]

/-- Without an answer each request gets what it comes to alone. -/
theorem outcomeOf_none (displays : Table ObjectId (Except RemoteError String))
    (requests : List Request) :
    outcomeOf displays requests none = requests.map (Request.alone displays) := by
  simp [outcomeOf, aloneOf_none, repliedOf]

/-- With one each request gets the entry at its place. -/
theorem outcomeOf_some (displays : Table ObjectId (Except RemoteError String))
    (requests : List Request) (entries : List Reply.Entry) :
    outcomeOf displays requests (some entries) =
      List.zipWith Request.answered requests entries := by
  rw [← List.map_uncurry_zip_eq_zipWith]
  rfl

/-- What an evaluation comes to that does not panic: the calls of `toString` are those of the requests that are
evaluated on their own, and all requests are completed. -/
theorem Evaluates.outcome {context : Context} {requests : List Request}
    (h : Evaluates context requests s (.ok (), s')) :
    s'.callsOf Call.isDisplay = s.callsOf Call.isDisplay ++
      (aloneOf requests (s.answer? context requests)).filterMap Request.displayCall? ∧
    s'.completions = s.completions ++
      outcomeOf s.link.debuggee.displays requests (s.answer? context requests) := by
  cases h with
  | @alone u attempts unanswered run_eq =>
    have hdisplays := displays_individually run_eq.symm
    obtain ⟨-, hdelivers⟩ := delivers_individually requests u
    rw [← run_eq] at hdelivers
    have hledger := congrArg Ledger.completed (hdelivers.eq_complete rfl)
    rw [attempts.ledger, attempts.setup.displays] at hledger
    rw [unanswered, hdisplays, attempts.displays, outcomeOf_none]
    exact ⟨rfl, hledger⟩
  | @replied u entries attempts answered length_eq run_eq =>
    have hexchanges := exchanges_deliver requests entries u
    obtain ⟨-, hdelivers⟩ := delivers_deliver requests entries u
    rw [← run_eq] at hexchanges hdelivers
    have hledger := congrArg Ledger.completed (hdelivers.eq_complete rfl)
    rw [attempts.ledger] at hledger
    rw [answered, callsOf_of_eq hexchanges, attempts.displays, outcomeOf_some]
    exact ⟨(List.append_nil _).symm, hledger⟩
  | panicked attempts run_eq => cases run_eq

/-! ## Turns -/

/-- The requests that the next task carries and that are evaluated when it is taken: none of them if it is
cancelled. -/
def nextDue (s : Session) : List Request :=
  match s.queue.waiting with
  | [] => []
  | task :: _ => if s.isCancelled task then [] else s.carried task

/-- The entries that the next task completes its requests from, if it is a flush whose attempt is answered. -/
def nextAnswer? (s : Session) : Option (List Reply.Entry) :=
  match s.queue.waiting with
  | .flush context :: _ => s.answer? context s.next
  | _ => none

/-- The requests that the next task evaluates on their own. -/
def nextAlone (s : Session) : List Request := aloneOf s.nextDue s.nextAnswer?

/-- The requests that the next task completes from a reply, each with the entry at its place. -/
def nextReplied (s : Session) : List (Request × Reply.Entry) := repliedOf s.nextDue s.nextAnswer?

/-- What the requests of the next task come to. -/
def nextOutcome (s : Session) : List (Request × Completion) :=
  outcomeOf s.link.debuggee.displays s.nextDue s.nextAnswer?

/-- A panic that is caught is noted. -/
theorem run_of_neverPanicked {cancelled : Bool} {action : Action Unit}
    (h : (contain cancelled action s).NeverPanicked) :
    action.run.run s = (.ok (), contain cancelled action s) := by
  unfold contain at h ⊢
  rcases hr : action.run.run s with ⟨payload | _, s'⟩
  · rw [hr] at h
    exact absurd (List.mem_append_right _ (List.mem_singleton.2 rfl)) (h cancelled payload)
  · rfl

variable {task : Task} {rest : List Task} {context : Context} {request : Request}

/-- If the next turn serves no requests, nothing is due. -/
theorem nextDue_of_unserved (h : s.servedNext? = none) : s.nextDue = [] := by
  unfold nextDue
  cases hw : s.queue.waiting with
  | nil => rfl
  | cons task rest =>
    cases task with
    | command command scope => exact ite_self []
    | _ => simp [servedNext?, hw, Task.servedScope?] at h

/-- If the next task serves requests of a scope, it is not a command of the embedder. -/
theorem exists_of_servedNext (h : s.servedNext?.isSome = true) :
    ∃ task rest, s.queue.waiting = task :: rest ∧ task.isCommand = false := by
  obtain ⟨scope, hscope⟩ := Option.isSome_iff_exists.1 h
  obtain ⟨task, hhead, hserves⟩ := Option.bind_eq_some_iff.1 hscope
  obtain ⟨rest, hw⟩ := List.head?_eq_some_iff.1 hhead
  exact ⟨task, rest, hw, Task.isCommand_eq_false_iff.2 ⟨scope, hserves⟩⟩

/-- What a turn does to the requests of its task, if it does not panic: it calls `toString` for those that it
evaluates on their own, and it completes all that are due. -/
structure Serviced (s s' : Session) : Prop where
  displays : s'.callsOf Call.isDisplay =
    s.callsOf Call.isDisplay ++ s.nextAlone.filterMap Request.displayCall?
  completions : s'.completions = s.completions ++ s.nextOutcome

/-- A turn with nothing due calls and completes nothing. -/
theorem Serviced.of_eq (due : s.nextDue = [])
    (displays : s'.callsOf Call.isDisplay = s.callsOf Call.isDisplay)
    (completions : s'.completions = s.completions) : Serviced s s' := by
  constructor
  · rw [displays, nextAlone, due, aloneOf_nil]
    exact (List.append_nil _).symm
  · rw [completions, nextOutcome, due, outcomeOf_nil, List.append_nil]

/-- A turn with a request of its own calls `toString` for it if it is evaluated, and completes it. -/
theorem serviced_individual (h : s.queue.waiting = .individual request :: rest)
    (calm : (s.after .turn).NeverPanicked) : Serviced s (s.after .turn) := by
  have hafter := after_turn_eq_contain h
  rw [hafter] at calm
  have hrun := run_of_neverPanicked calm
  rw [← hafter] at hrun
  cases hc : s.isCancelled (.individual request) with
  | true =>
    rw [hc] at hrun
    have hsame : s.taken rest = s.after .turn := congrArg Prod.snd hrun
    rw [← hsame]
    exact .of_eq (by simp [nextDue, h, hc]) rfl rfl
  | false =>
    have hanswer : s.nextAnswer? = none := by simp [nextAnswer?, h]
    have hdue : s.nextDue = [request] := by simp [nextDue, h, hc, carried]
    rw [hc] at hrun
    have hdisplays := displays_evaluateIndividually request (s.taken rest)
    have hledger := congrArg Ledger.completed
      (ledger_evaluateIndividually request (s.taken rest))
    rw [show (evaluateIndividually request).run.run (s.taken rest) = _ from hrun] at hdisplays hledger
    constructor
    · rw [nextAlone, hanswer, hdue, aloneOf_none]
      cases hcall : request.displayCall? with
      | none =>
        rw [hcall] at hdisplays
        rw [List.filterMap_cons_none hcall]
        exact hdisplays
      | some call =>
        rw [hcall] at hdisplays
        rw [List.filterMap_cons_some hcall]
        exact hdisplays
    · rw [nextOutcome, hanswer, hdue, outcomeOf_none]
      exact hledger

/-- A turn with a flush calls `toString` for the requests that no reply answers and completes the whole batch, unless
its scope has ended. -/
theorem serviced_flush (h : s.queue.waiting = .flush context :: rest)
    (calm : (s.after .turn).NeverPanicked) : Serviced s (s.after .turn) := by
  have hafter := after_turn_eq_contain h
  rw [hafter] at calm
  have hrun := run_of_neverPanicked calm
  rw [← hafter] at hrun
  cases hc : s.isCancelled (.flush context) with
  | true =>
    rw [hc] at hrun
    have hsame : (s.taken rest).discard context.scope.id = s.after .turn := congrArg Prod.snd hrun
    rw [← hsame]
    refine .of_eq (by simp [nextDue, h, hc]) (callsOf_of_eq (exchanges_note _ _)) ?_
    exact congrArg Ledger.completed
      (ledger_note ((s.taken rest).takePending context.scope.id).2 rfl)
  | false =>
    have hanswer : s.nextAnswer? = s.answer? context s.next := by simp [nextAnswer?, h]
    have hdue : s.nextDue = s.next := by simp [nextDue, h, hc, next]
    rw [hc] at hrun
    have hflush := run_flush context (s.taken rest)
    rw [show (flush context).run.run (s.taken rest) = _ from hrun,
      ← show s.next = ((s.taken rest).takePending context.scope.id).1 from next_of_cons h] at hflush
    generalize ht : ((s.taken rest).takePending context.scope.id).2 = t at hflush
    -- taking the batch changes nothing that the evaluation depends on
    have hbefore : t.answer? context s.next = s.answer? context s.next ∧
        t.callsOf Call.isDisplay = s.callsOf Call.isDisplay ∧ t.completions = s.completions ∧
        t.link = s.link := by
      rw [← ht]
      exact ⟨rfl, rfl, rfl, rfl⟩
    obtain ⟨hsame, hdisplays, hcompletions, hlink⟩ := hbefore
    cases he : s.next.isEmpty with
    | true =>
      rw [he] at hflush
      have hafter : s.after .turn = t := congrArg Prod.snd hflush
      rw [hafter]
      exact .of_eq (hdue.trans (List.isEmpty_iff.1 he)) hdisplays hcompletions
    | false =>
      rw [he] at hflush
      have hevaluates := evaluates context s.next t
      rw [show (evaluateAll context s.next).run.run t = _ from hflush.symm] at hevaluates
      obtain ⟨hcalls, hcompleted⟩ := hevaluates.outcome
      rw [hsame, hdisplays, ← hanswer, ← hdue] at hcalls
      rw [hsame, hcompletions, hlink, ← hanswer, ← hdue] at hcompleted
      exact ⟨hcalls, hcompleted⟩

/-- A task that serves requests, if it does not panic, does what its requests take. -/
theorem serviced_turn (h : s.queue.waiting = task :: rest) (served : task.isCommand = false)
    (calm : (s.after .turn).NeverPanicked) : Serviced s (s.after .turn) := by
  cases task with
  | flush context => exact serviced_flush h calm
  | individual request => exact serviced_individual h calm
  | command command scope => cases served

/-- The turn of a request with a task of its own takes no calls but of `toString`. -/
theorem makes_individual (h : s.queue.waiting = .individual request :: rest) :
    Makes (fun x => x.1.isDisplay = true) s (s.after .turn) := by
  have hact : Makes (fun x => x.1.isDisplay = true) s
      ((if s.isCancelled (.individual request) then cancel (.individual request)
        else run (.individual request)).run.run (s.taken rest)).2 := by
    split
    · exact .of_eq rfl
    · exact makes_evaluateIndividually request (s.taken rest)
  rw [after_turn_eq_contain h]
  exact IsTrans.trans _ _ _ hact (.of_eq (exchanges_contain _ _ _))

/-! ## Events -/

variable {event : Event} {x : Call × Outcome}

/-- A call that only batches need is made by a flush of a scope that is valid. -/
theorem flush_of_batchCall (own : ∀ p ∈ s.stepsAt event, p.2.isByEmbedder = false)
    (h : x ∈ s.exchangesSince (s.after event)) (batch : x.1.isBatchCall = true) :
    event = .turn ∧ ∃ context rest, s.queue.waiting = .flush context :: rest ∧
      s.suspensions.isValid context.scope = true := by
  have hkind : ¬(x.1.isDisplay = true ∨ x.1.isLookUp = true) := by
    intro hx
    rw [Call.isBatchCall_eq_false hx] at batch
    cases batch
  rcases (makes_after event).since.2 x h with ⟨p, hp, hstep⟩ | ⟨rfl, hserved, -⟩
  · have hlookUp := (makes_ownStep (own p hp) p.1).since.2 x hstep
    exact absurd (.inr hlookUp.1) hkind
  · obtain ⟨task, rest, hw, hserves⟩ := exists_of_servedNext hserved
    cases task with
    | command command scope => cases hserves
    | individual request => exact absurd (.inl ((makes_individual hw).since.2 x h)) hkind
    | flush context =>
      refine ⟨rfl, context, rest, hw, ?_⟩
      rw [← Bool.not_eq_false]
      intro hended
      rw [exchangesSince, exchanges_turn hw rfl hended, List.drop_length] at h
      cases h

/-- A flush asks the helper at most once. -/
theorem once_flush (h : s.queue.waiting = .flush context :: rest)
    (valid : s.suspensions.isValid context.scope = true) :
    ((s.after .turn).callsOf Call.isInvocation).length ≤
      (s.callsOf Call.isInvocation).length + 1 := by
  have hcancelled : s.isCancelled (.flush context) = false := by
    simp [isCancelled, Task.scope?, valid]
  rw [after_turn_eq_contain h, hcancelled, callsOf_of_eq (exchanges_contain _ _ _)]
  show (callsOf Call.isInvocation ((flush context).run.run (s.taken rest)).2).length ≤ _
  rw [run_flush]
  split
  · exact Nat.le_succ _
  · exact (evaluates _ _ _).once

/-- In an event one method at most is run by its name. -/
theorem once_after (own : ∀ p ∈ s.stepsAt event, p.2.isByEmbedder = false) :
    (s.exchangesSince (s.after event)).countP (·.1.isInvocation) ≤ 1 := by
  by_cases hbatch : ∃ x ∈ s.exchangesSince (s.after event), x.1.isBatchCall = true
  · obtain ⟨x, hx, hbatch⟩ := hbatch
    obtain ⟨rfl, context, rest, hw, valid⟩ := flush_of_batchCall own hx hbatch
    have honce := once_flush hw valid
    rw [callsOf_of_exchanges (makes_after (s := s) .turn).since.1, List.length_append,
      ← List.countP_eq_length_filter (p := Call.isInvocation), List.countP_map] at honce
    exact Nat.le_of_add_le_add_left honce
  · refine Nat.le_trans (Nat.le_of_eq ?_) (Nat.zero_le 1)
    rw [List.countP_eq_zero]
    exact fun x hx hinvocation => hbatch ⟨x, hx, Call.isBatchCall_of_isInvocation hinvocation⟩

/-- Where no requests are served, `toString` is not called. -/
theorem displays_of_unserved (own : ∀ p ∈ s.stepsAt event, p.2.isByEmbedder = false)
    (unserved : event = .turn → s.servedNext? = none) :
    (s.after event).callsOf Call.isDisplay = s.callsOf Call.isDisplay := by
  refine callsOf_of_makes (makes_after event) ?_
  rintro x (⟨p, hp, hstep⟩ | ⟨hturn, hserved, -⟩)
  · exact Call.isDisplay_of_isLookUp ((makes_ownStep (own p hp) p.1).since.2 x hstep).1
  · rw [unserved hturn] at hserved
    cases hserved

/-- The requests that are evaluated on their own in an event. -/
def aloneAt (s : Session) : Event → List Request
  | .turn => s.nextAlone
  | _ => []

/-- The calls of `toString` in an event are those of the requests that are evaluated on their own in it. -/
theorem displays_after (own : ∀ p ∈ s.stepsAt event, p.2.isByEmbedder = false)
    (calm : (s.after event).NeverPanicked) :
    (s.after event).callsOf Call.isDisplay =
      s.callsOf Call.isDisplay ++ (s.aloneAt event).filterMap Request.displayCall? := by
  by_cases hserves : event = .turn ∧ s.servedNext?.isSome = true
  · obtain ⟨rfl, hserved⟩ := hserves
    obtain ⟨task, rest, hw, hserves⟩ := exists_of_servedNext hserved
    exact (serviced_turn hw hserves calm).displays
  · have hunserved : event = .turn → s.servedNext? = none := by
      rintro rfl
      simpa using hserves
    have hnone : s.aloneAt event = [] := by
      cases event with
      | turn =>
        have hdue : s.nextDue = [] := nextDue_of_unserved (hunserved rfl)
        rw [aloneAt, nextAlone, hdue, aloneOf_nil]
      | _ => rfl
    rw [displays_of_unserved own hunserved, hnone]
    exact (List.append_nil _).symm

end Session

end BatchStringify
