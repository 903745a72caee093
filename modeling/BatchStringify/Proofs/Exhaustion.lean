import BatchStringify.Proofs.Actions
import BatchStringify.Session.Run

/-!
# Running the queue empties it

Each task that is executed uses up a part of the work of a session, and everything that it sends or
sets aside was counted in its own weight. So the work bounds how many tasks can be executed, and
`runPending` leaves the queue empty (`waiting_runPending`).
-/

namespace BatchStringify.Session

variable {α β : Type}

/-! ## Work of changed sessions -/

@[simp] theorem total_nil (weight : α → Nat) : total weight [] = 0 := rfl

@[simp] theorem total_cons (weight : α → Nat) (x : α) (rest : List α) :
    total weight (x :: rest) = weight x + total weight rest := rfl

@[simp] theorem total_append (weight : α → Nat) (first second : List α) :
    total weight (first ++ second) = total weight first + total weight second := by
  induction first with
  | nil => simp
  | cons x rest ih =>
    rw [List.cons_append, total_cons, total_cons, ih]
    omega

/-- Nothing adds up to nothing. -/
theorem total_eq_zero {weight : α → Nat} {xs : List α} (h : ∀ x ∈ xs, weight x = 0) :
    total weight xs = 0 := by
  induction xs with
  | nil => rfl
  | cons x rest ih =>
    rw [total_cons, h x List.mem_cons_self, ih fun y hy => h y (List.mem_cons_of_mem _ hy)]

/-- Pairing with another list at most loses some of the sum. -/
theorem total_zip_le (weight : α → Nat) (xs : List α) (ys : List β) :
    total (fun p => weight p.1) (xs.zip ys) ≤ total weight xs := by
  induction xs generalizing ys with
  | nil => simp
  | cons x rest ih =>
    cases ys with
    | nil => simp
    | cons y ys =>
      have := ih ys
      simp only [List.zip_cons_cons, total_cons]
      omega

theorem work_eq (s : Session) :
    s.work = total Task.weight s.queue.waiting + pendingWork s.pending := rfl

@[simp] theorem work_withLink (s : Session) (link : Link) : (s.withLink link).work = s.work := rfl

@[simp] theorem work_note (s : Session) (n : Logging.Notice) : (s.note n).work = s.work := rfl

@[simp] theorem work_record (s : Session) (e : Entry) : (s.record e).work = s.work := rfl

@[simp] theorem work_emit (s : Session) (r : Report) : (s.emit r).work = s.work := rfl

/-- A task that is sent adds its weight, and nothing if the queue is gone. -/
theorem work_invoke_le (s : Session) (task : Task) :
    (s.invoke task).work ≤ s.work + task.weight := by
  unfold invoke
  simp only
  split
  · rename_i h
    simp only [work_eq, CommandQueue.send, h, if_true, total_append, total_cons, total_nil]
    omega
  · rename_i h
    rw [work_note]
    simp only [work_eq, CommandQueue.send, if_neg h]
    omega

/-- Replacing a batch adds at most by how much it grows. -/
theorem pendingWork_put_le (t : Table Nat (List Request)) (k : Nat) (old new : List Request)
    (extra : Nat) (h : (t.find? k).getD [] = old)
    (hn : total Request.weight new ≤ total Request.weight old + extra) :
    pendingWork (t.put k new) ≤ pendingWork t + extra := by
  obtain ⟨entries⟩ := t
  induction entries with
  | nil =>
    simp only [Table.find?, Table.findEntry, Option.getD_none] at h
    subst h
    simpa [pendingWork, Table.put, Table.putEntry] using hn
  | cons e rest ih =>
    by_cases he : e.1 = k
    · simp only [Table.find?, Table.findEntry, he, if_true, Option.getD_some] at h
      subst h
      simp only [pendingWork, Table.put, Table.putEntry, he, if_true, total_cons]
      omega
    · simp only [Table.find?, Table.findEntry, he, if_false] at h ih
      have := ih h
      simp only [pendingWork, Table.put, Table.putEntry, he, if_false, total_cons] at this ⊢
      omega

/-- Taking a batch away takes its weight away. -/
theorem pendingWork_erase (t : Table Nat (List Request)) (k : Nat) :
    pendingWork (t.erase k) + total Request.weight ((t.find? k).getD []) ≤ pendingWork t := by
  obtain ⟨entries⟩ := t
  induction entries with
  | nil => simp [pendingWork, Table.erase, Table.find?, Table.findEntry]
  | cons e rest ih =>
    simp only [pendingWork, Table.erase, Table.find?] at ih ⊢
    by_cases he : e.1 = k
    · have hle : total (fun e => total Request.weight e.2) (rest.filter (·.1 ≠ k)) ≤
          total (fun e => total Request.weight e.2) rest := by omega
      simp [Table.findEntry, he] at hle ⊢
      omega
    · rw [List.filter_cons_of_pos (by simpa using he), Table.findEntry, if_neg he]
      simp only [total_cons]
      omega

/-- Joining a batch counts the sink of the request, and one for the flush that a new batch needs. -/
theorem work_join_le (s : Session) (request : Request) :
    (s.join request).work ≤ s.work + (1 + request.weight) := by
  unfold join
  simp only
  split
  · rename_i batch h
    have := pendingWork_put_le s.pending request.context.scope.id batch (batch ++ [request])
      request.weight (by simp [h]) (by simp)
    simp only [work_eq]
    omega
  · rename_i h
    have := pendingWork_put_le s.pending request.context.scope.id [] [request]
      request.weight (by simp [h]) (by simp)
    refine Nat.le_trans (work_invoke_le _ _) ?_
    simp only [work_eq, Task.weight]
    omega

/-- Looking for the helper sends nothing. -/
theorem work_askProbe (s : Session) (context : Context) :
    (s.askProbe context).2.work = s.work := by
  unfold askProbe
  split <;> rfl

/-- Whichever way a request goes, it adds one task and what its sink can give rise to. -/
theorem work_accept_le (s : Session) (request : Request) :
    (s.accept request).work ≤ s.work + (1 + request.weight) := by
  have h := work_askProbe s request.context
  rcases s.accept_cases request with ⟨s', rfl | rfl, ha⟩ | ⟨-, -, ha⟩ <;> rw [ha]
  · exact work_invoke_le _ _
  · exact h ▸ work_invoke_le _ _
  · exact h ▸ work_join_le _ request

/-- A submission adds no more than accepting its request. -/
theorem work_submit_le (s : Session) (request : Request) :
    (s.submit request).work ≤ s.work + (1 + request.weight) := by
  unfold submit
  split
  · exact work_accept_le (s.record (.accepted request)) request
  · simp

theorem work_invokeCommand_le (s : Session) (command : Command) :
    (s.invokeCommand command).work ≤ s.work + command.weight := work_invoke_le _ _

/-- A command adds what it can give rise to, and nothing without a sender. -/
theorem work_offer_le (s : Session) (command : Command) :
    (s.offer command).work ≤ s.work + command.weight := by
  unfold offer
  split
  · exact work_invokeCommand_le s command
  · simp

/-- Commands add at most what they can give rise to. -/
theorem work_offers_le (s : Session) (commands : List Command) :
    (commands.foldl offer s).work ≤ s.work + Command.weights commands := by
  induction commands generalizing s with
  | nil => exact Nat.le_refl _
  | cons command rest ih =>
    have hfirst := work_offer_le s command
    have hrest := ih (s.offer command)
    rw [List.foldl_cons, Command.weights]
    omega

@[simp] theorem work_invalidateAt (s : Session) (index : Nat) :
    (s.invalidateAt index).work = s.work := by
  unfold invalidateAt
  split <;> rfl

@[simp] theorem work_detach (s : Session) (attachment : Nat) :
    (s.detach attachment).work = s.work := rfl

/-- A batch that is set aside for its flush takes its weight out of the session. -/
theorem work_takePending (s : Session) (scope : Nat) :
    (s.takePending scope).2.work + total Request.weight (s.takePending scope).1 ≤ s.work := by
  have := pendingWork_erase s.pending scope
  simp only [takePending, work_eq]
  omega

/-- Dropping a batch adds nothing. -/
theorem work_discard_le (s : Session) (scope : Nat) : (s.discard scope).work ≤ s.work := by
  have := work_takePending s scope
  simp only [discard, work_note]
  omega

/-- A sink adds what its commands can give rise to. -/
theorem work_afterSink_le (sink : Sink) (s : Session) :
    (afterSink sink s).work ≤ s.work + sink.weight := by
  obtain ⟨invalidate, detach, invoke, panic⟩ := sink
  unfold afterSink
  refine Nat.le_trans (work_offers_le _ invoke) (Nat.le_of_eq ?_)
  rw [foldl_keeps work work_detach, foldl_keeps work work_invalidateAt, Sink.weight]

/-! ## Work of actions -/

/-- Whether an action adds at most `n` to the work of a session, also if it panics. -/
def AddsAtMost (n : Nat) (a : Action α) : Prop := ∀ s, (a.run.run s).2.work ≤ s.work + n

namespace AddsAtMost

theorem mono {m n : Nat} {a : Action α} (h : AddsAtMost m a) (hmn : m ≤ n) : AddsAtMost n a :=
  fun s => Nat.le_trans (h s) (Nat.add_le_add_left hmn _)

theorem of_pure (x : α) : AddsAtMost 0 (pure x : Action α) := fun _ => Nat.le_refl _

theorem of_throw (payload : Panic) : AddsAtMost 0 (throw payload : Action α) :=
  fun _ => Nat.le_refl _

theorem of_bind {m n : Nat} {a : Action α} {f : α → Action β} (ha : AddsAtMost m a)
    (hf : ∀ x, AddsAtMost n (f x)) : AddsAtMost (m + n) (a >>= f) := by
  intro s
  have h := ha s
  rw [run_bind]
  rcases hr : a.run.run s with ⟨payload | x, s'⟩ <;> rw [hr] at h <;> dsimp only at h ⊢
  · omega
  · have hx := hf x s'
    omega

theorem of_modify {n : Nat} {f : Session → Session} (h : ∀ s, (f s).work ≤ s.work + n) :
    AddsAtMost n (modify f : Action PUnit) := h

theorem of_forM {γ : Type} {f : γ → Action PUnit} {w : γ → Nat}
    (h : ∀ x, AddsAtMost (w x) (f x)) (xs : List γ) :
    AddsAtMost (total w xs) (xs.forM f) := by
  induction xs with
  | nil => exact of_pure _
  | cons x rest ih =>
    exact of_bind (h x) fun _ => ih

theorem of_onLink (work : Link → α × Link) : AddsAtMost 0 (onLink work) := fun _ => Nat.le_refl _

end AddsAtMost

/-- Completing a request adds what its sink can give rise to, whether or not the sink panics. -/
theorem addsAtMost_complete (request : Request) (completion : Completion) :
    AddsAtMost request.weight (complete request completion) := by
  unfold complete
  refine .of_bind (m := request.weight) (n := 0) (.of_modify fun s => ?_) fun _ => ?_
  · exact work_afterSink_le request.sink _
  · split
    · exact .of_throw _
    · exact .of_pure _

/-- The call of `toString` adds nothing to that. -/
theorem addsAtMost_evaluateIndividually (request : Request) :
    AddsAtMost request.weight (evaluateIndividually request) :=
  (AddsAtMost.of_bind (.of_onLink _) fun _ => addsAtMost_complete request _).mono (by omega)

/-- Requests that are completed from a reply add what their sinks can give rise to. -/
theorem addsAtMost_deliver (requests : List Request) (entries : List Reply.Entry) :
    AddsAtMost (total Request.weight requests) (deliver requests entries) :=
  (AddsAtMost.of_forM (w := fun p => p.1.weight)
    (fun p => addsAtMost_complete p.1 (.ofEntry p.2)) (requests.zip entries)).mono
    (total_zip_le _ _ _)

/-- What a batch evaluation may end with: the requests that are left were not counted yet. -/
def BatchAdds (n : Nat) (s : Session) : Except Panic (Bool × List Request) × Session → Prop
  | (.ok (false, left), s') => s'.work + total Request.weight left ≤ s.work + n
  | (_, s') => s'.work ≤ s.work + n

/-- An attempt that fails leaves the weight of its requests to those who evaluate them one by one. -/
theorem batchAdds_evaluateBatch (helper : Helper) (context : Context) (requests : List Request)
    (s : Session) :
    BatchAdds (total Request.weight requests) s
      ((evaluateBatch helper context requests).run.run s) := by
  have hs : ((attemptBatch helper context requests).run.run s).2.work = s.work := rfl
  rw [run_evaluateBatch]
  rcases hr : (attemptBatch helper context requests).run.run s with
    ⟨payload | fault | entries, s'⟩ <;> rw [hr] at hs <;> dsimp only at hs ⊢
  · show s'.work ≤ _
    omega
  · show s'.work + total Request.weight requests ≤ _
    omega
  · have hd := addsAtMost_deliver requests entries s'
    rcases hd' : (deliver requests entries).run.run s' with ⟨_ | _, s''⟩ <;>
      rw [hd', hs] at hd <;> exact hd

/-- The same holds where there is no helper to ask. -/
theorem batchAdds_evaluateTogether (context : Context) (requests : List Request) (s : Session) :
    BatchAdds (total Request.weight requests) s
      ((evaluateTogether context requests).run.run s) := by
  rw [run_evaluateTogether]
  split
  · exact batchAdds_evaluateBatch _ context requests s
  · exact Nat.le_refl _

/-- Whether together or one by one: each sink is counted once. -/
theorem addsAtMost_evaluateAll (context : Context) (requests : List Request) :
    AddsAtMost (total Request.weight requests) (evaluateAll context requests) := by
  intro s
  have h := batchAdds_evaluateTogether context requests s
  rw [run_evaluateAll]
  rcases hr : (evaluateTogether context requests).run.run s with
    ⟨payload | ⟨_ | _, left⟩, s'⟩ <;> rw [hr] at h
  · exact h
  · have hi := AddsAtMost.of_forM addsAtMost_evaluateIndividually left s'
    exact Nat.le_trans hi h
  · exact h

/-- Evaluating the batch of a scope only moves work from the pending requests to the queue. -/
theorem addsAtMost_flush (context : Context) : AddsAtMost 0 (flush context) := by
  intro s
  have h := work_takePending s context.scope.id
  rw [run_flush]
  split
  · dsimp only
    omega
  · have := addsAtMost_evaluateAll context (s.takePending context.scope.id).1
      (s.takePending context.scope.id).2
    omega

/-! ## Work of steps and commands -/

theorem addsAtMost_changing {n : Nat} {f : Session → Session}
    (h : ∀ s, (f s).work ≤ s.work + n) : AddsAtMost n (changing f) := h

theorem addsAtMost_withRequest {n : Nat} (submission : Submission)
    {work : Request → Action Result}
    (h : ∀ request, request.sink = submission.sink → AddsAtMost n (work request)) :
    AddsAtMost n (withRequest submission work) := by
  intro s
  rw [run_withRequest]
  unfold makeRequest
  cases s.contextAt? submission.place with
  | some context => exact h _ rfl _
  | none => exact Nat.le_add_right _ _

theorem addsAtMost_withContext {n : Nat} (place : Place) {work : Context → Action Result}
    (h : ∀ context, AddsAtMost n (work context)) : AddsAtMost n (withContext place work) := by
  intro s
  rw [run_withContext]
  split
  · exact h _ s
  · exact Nat.le_add_right _ _

/-- A request made by hand adds what its sink can give rise to, however it ends. -/
theorem addsAtMost_finish (request : Request) (ending : Ending) :
    AddsAtMost request.weight (finish request ending) := by
  cases ending with
  | individual =>
    exact .of_bind (n := 0) (addsAtMost_evaluateIndividually request) fun _ => .of_pure _
  | succeed text => exact .of_bind (n := 0) (addsAtMost_complete request _) fun _ => .of_pure _
  | fail message => exact .of_bind (n := 0) (addsAtMost_complete request _) fun _ => .of_pure _
  | drop => exact (AddsAtMost.of_pure _).mono (Nat.zero_le _)
  | describe => exact (AddsAtMost.of_pure _).mono (Nat.zero_le _)

/-- Requests without further effect of their sinks weigh nothing. -/
theorem total_weight_makePlain (s : Session) (context : Context) (values : List (String × Value)) :
    total Request.weight (s.makePlain context values).1 = 0 := by
  refine total_eq_zero fun request hr => ?_
  simp only [makePlain, List.mem_mapIdx] at hr
  obtain ⟨i, hi, rfl⟩ := hr
  rfl

theorem addsAtMost_batchByHand (context : Context) (helper : Helper)
    (values : List (String × Value)) : AddsAtMost 0 (batchByHand context helper values) := by
  intro s
  have hw : (s.makePlain context values).2.work = s.work := rfl
  have h := batchAdds_evaluateBatch helper context (s.makePlain context values).1
    (s.makePlain context values).2
  rw [total_weight_makePlain] at h
  rw [run_batchByHand, ← hw]
  rcases hr : (evaluateBatch helper context (s.makePlain context values).1).run.run
    (s.makePlain context values).2 with ⟨payload | ⟨_ | _, left⟩, s'⟩ <;> rw [hr] at h
  · exact h
  · exact Nat.le_trans (Nat.le_add_right _ _) h
  · exact h

theorem addsAtMost_callDirectly (call : Call) : AddsAtMost 0 (callDirectly call) := by
  intro s
  show (callDirectly call s).2.work ≤ _
  unfold callDirectly
  split <;> exact Nat.le_refl _

/-- A submission adds no more than was counted for it. -/
theorem addsAtMost_submit (submission : Submission) :
    AddsAtMost submission.weight
      (withRequest submission fun request => changing (·.submit request)) := by
  refine addsAtMost_withRequest submission fun request h => addsAtMost_changing fun s => ?_
  have := work_submit_le s request
  rw [Request.weight, h] at this
  obtain ⟨label, value, place, sink⟩ := submission
  rwa [Submission.weight]

/-- A step adds no more than was counted for it. -/
theorem addsAtMost_perform (step : Step) : AddsAtMost step.weight (perform step) := by
  cases step with
  | submit submission => exact addsAtMost_submit submission
  | submitRequest submission => exact addsAtMost_submit submission
  | request submission ending =>
    refine addsAtMost_withRequest submission fun request h => ?_
    refine (addsAtMost_finish request ending).mono ?_
    rw [Request.weight, h]
    obtain ⟨label, value, place, sink⟩ := submission
    show sink.weight ≤ 1 + sink.weight
    omega
  | invoke command => exact fun s => by rw [Step.weight]; exact work_offer_le s command
  | evaluateBatch place helper values =>
    exact addsAtMost_withContext place fun context => addsAtMost_batchByHand context helper values
  | call call => exact addsAtMost_callDirectly call
  | invalidate scope => exact addsAtMost_changing fun s => by simp
  | available place =>
    exact addsAtMost_withContext place fun context s => Nat.le_of_eq (work_askProbe s context)
  | probe place => exact addsAtMost_withContext place fun context s => Nat.le_refl _
  | _ => exact fun s => Nat.le_add_right _ _

theorem weights_eq_total (steps : List Step) :
    Step.weights steps = total Step.weight steps := by
  induction steps with
  | nil => rfl
  | cons step rest ih => rw [Step.weights, ih, total_cons]

/-- The steps of a command add no more than was counted for them, even if one of them panics. -/
theorem addsAtMost_runCommand (name : String) (steps : List Step) (cancelled : Bool) :
    AddsAtMost (Step.weights steps) (runCommand name steps cancelled) := by
  rw [weights_eq_total]
  refine (AddsAtMost.of_bind (m := 0) (.of_modify fun s => Nat.le_of_eq (work_emit s _))
    fun _ => ?_).mono (Nat.le_of_eq (Nat.zero_add _))
  refine .of_forM (fun step => ?_) steps
  exact .of_bind (n := 0) (addsAtMost_perform step) fun _ =>
    .of_modify fun s => Nat.le_of_eq (work_emit s _)

/-- A task that is run adds less than its weight, since the one that counts the task itself is used up. -/
theorem addsAtMost_run (task : Task) : AddsAtMost (task.weight - 1) (run task) := by
  cases task with
  | flush context =>
    rw [run]
    exact addsAtMost_flush context
  | individual request =>
    exact (addsAtMost_evaluateIndividually request).mono (by rw [Task.weight]; omega)
  | command work scope =>
    obtain ⟨name, steps, cancelled, position, style⟩ := work
    refine (addsAtMost_runCommand name steps false).mono ?_
    rw [Task.weight, Command.weight]
    omega

/-- So does a task that is cancelled. -/
theorem addsAtMost_cancel (task : Task) : AddsAtMost (task.weight - 1) (cancel task) := by
  cases task with
  | flush context => exact .of_modify fun s => work_discard_le s _
  | individual request => exact (AddsAtMost.of_pure _).mono (Nat.zero_le _)
  | command work scope =>
    obtain ⟨name, steps, cancelled, position, style⟩ := work
    cases style with
    | ordinary =>
      refine (addsAtMost_runCommand name cancelled true).mono ?_
      rw [Task.weight, Command.weight]
      omega
    | unbound => exact (AddsAtMost.of_pure _).mono (Nat.zero_le _)
    | silent => exact (AddsAtMost.of_pure _).mono (Nat.zero_le _)

/-- Every task weighs something. -/
theorem one_le_weight (task : Task) : 1 ≤ task.weight := by
  cases task with
  | flush context => exact Nat.le_refl _
  | individual request => exact Nat.le_add_right _ _
  | command work scope =>
    obtain ⟨name, steps, cancelled, position, style⟩ := work
    rw [Task.weight, Command.weight]
    omega

/-! ## Running the queue -/

/-- Executing a task adds less than its weight, also if it panics. -/
theorem work_execute_lt (task : Task) (s : Session) :
    (execute task s).work < s.work + task.weight := by
  have hw := one_le_weight task
  have h : ((if s.isCancelled task then cancel task else run task).run.run s).2.work ≤
      s.work + (task.weight - 1) := by
    split
    · exact addsAtMost_cancel task s
    · exact addsAtMost_run task s
  unfold execute
  simp only
  split <;> rename_i hs <;> rw [hs] at h <;> simp only [work_note] at h ⊢ <;> omega

/-- Each turn makes the work less. -/
theorem work_dequeue_lt {s s' : Session} (h : s.dequeue = some s') : s'.work < s.work := by
  unfold dequeue CommandQueue.receive? at h
  cases hw : s.queue.waiting with
  | nil => simp [hw] at h
  | cons task rest =>
    simp only [hw, Option.map_some, Option.some.injEq] at h
    subst h
    have := work_execute_lt task { s with queue := { s.queue with waiting := rest } }
    simp only [work_eq, hw, total_cons] at this ⊢
    omega

theorem dequeue_eq_none_iff (s : Session) : s.dequeue = none ↔ s.queue.waiting = [] := by
  unfold dequeue CommandQueue.receive?
  cases s.queue.waiting <;> simp

/-- Enough fuel empties the queue. -/
theorem waiting_drain {fuel : Nat} {s : Session} (h : s.work ≤ fuel) :
    (drain fuel s).2.queue.waiting = [] := by
  induction fuel generalizing s with
  | zero =>
    -- a task that waits would have work left
    rw [drain, ← dequeue_eq_none_iff]
    cases hd : s.dequeue with
    | none => rfl
    | some s' => exact absurd (work_dequeue_lt hd) (by omega)
  | succ fuel ih =>
    rw [drain]
    cases hd : s.dequeue with
    | none => exact (dequeue_eq_none_iff s).1 hd
    | some s' =>
      have := work_dequeue_lt hd
      exact ih (by omega)

/-- Running the queue leaves nothing waiting in it. -/
theorem waiting_runPending (s : Session) : s.runPending.2.queue.waiting = [] :=
  waiting_drain (Nat.le_refl _)

/-- More fuel than there is work makes no difference. -/
theorem drain_eq_drain {m n : Nat} {s : Session} (hm : s.work ≤ m) (hn : s.work ≤ n) :
    drain m s = drain n s := by
  have hidle : ∀ s : Session, s.work ≤ 0 → s.dequeue = none := by
    intro s h
    cases hd : s.dequeue with
    | none => rfl
    | some s' => exact absurd (work_dequeue_lt hd) (by omega)
  induction m generalizing n s with
  | zero =>
    cases n with
    | zero => rfl
    | succ n => rw [drain, drain, hidle s hm]
  | succ m ih =>
    cases n with
    | zero => rw [drain, drain, hidle s hn]
    | succ n =>
      rw [drain, drain]
      cases hd : s.dequeue with
      | none => rfl
      | some s' =>
        have hlt := work_dequeue_lt hd
        dsimp only
        rw [ih (by omega) (show s'.work ≤ n by omega)]

/-- Running the queue executes its first task and then runs what is left of it. -/
theorem runPending_of_dequeue {s s' : Session} (h : s.dequeue = some s') :
    s.runPending = (s'.runPending.1 + 1, s'.runPending.2) := by
  have hlt := work_dequeue_lt h
  obtain ⟨n, hn⟩ := Nat.exists_eq_succ_of_ne_zero (show s.work ≠ 0 by omega)
  have hrest : drain n s' = s'.runPending := drain_eq_drain (by omega) (Nat.le_refl _)
  rw [runPending, hn, drain, h]
  dsimp only
  rw [hrest]

end BatchStringify.Session
