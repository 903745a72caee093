import BatchStringify.Proofs.HelperHandles

/-!
# What a run keeps of the debuggee

A session does four things to the debuggee of its own accord: it looks up classes and methods, it makes batch
attempts, it runs `toString`, and that is all; the rest are steps in which the embedder changes the debuggee or calls
it. A property of the debuggee that outlasts these is kept in every run (`keeps_play`), also where tasks panic. A
batch attempt counts as a whole here, so the property need not hold while it is under way.
-/

namespace BatchStringify

/-! ## Calls -/

/-- The debuggee after a call, whatever came of it. -/
def Debuggee.afterCall (d : Debuggee) : Call → Debuggee
  | .findClass thread name loader => (d.findClass thread name loader).2
  | .findMethod owner name signature => (d.findMethod owner name signature).2
  | .newArray elements length => (d.newArray elements length).2
  | .setArrayValues array values => (d.setArrayValues array values).2
  | .invokeStatic thread owner method args => (d.invokeStatic thread owner method args).2
  | .stringValue id => (d.stringValue id).2
  | .disableCollection id => (d.disableCollection id).2
  | .enableCollection id => (d.enableCollection id).2
  | .invokeToString thread id => (d.invokeToString thread id).2

/-- Whether a call pins an object or lets it go. -/
def Call.isPinning : Call → Bool
  | .disableCollection _ | .enableCollection _ => true
  | _ => false

/-- Whether a call can neither create a string nor pin an object nor let one go. -/
def Call.isQuiet : Call → Bool
  | .invokeStatic _ _ _ _ | .disableCollection _ | .enableCollection _ => false
  | _ => true

namespace Debuggee

/-- Whether the strings are the same, and the objects that were collected and that are pinned. -/
structure SameObjects (d d' : Debuggee) : Prop where
  strings : d'.strings = d.strings
  collected : d'.collected = d.collected
  pinned : d'.pinned = d.pinned
  /-- Numbers may have been given out in between. -/
  lastId : d.lastId ≤ d'.lastId

/-- Quiet calls leave the objects alone, apart from arrays. -/
theorem sameObjects_afterCall (d : Debuggee) {call : Call} (h : call.isQuiet = true) :
    d.SameObjects (d.afterCall call) := by
  unfold afterCall
  cases call with
  | findClass thread name loader =>
    simp only [findClass]
    split <;> exact ⟨rfl, rfl, rfl, Nat.le_refl _⟩
  | findMethod owner name signature =>
    simp only [findMethod]
    split <;> exact ⟨rfl, rfl, rfl, Nat.le_refl _⟩
  | newArray elements length =>
    simp only [newArray]
    split
    · exact ⟨rfl, rfl, rfl, Nat.le_refl _⟩
    · exact ⟨rfl, rfl, rfl, Nat.le_succ _⟩
  | setArrayValues array values =>
    simp only [setArrayValues]
    split
    · exact ⟨rfl, rfl, rfl, Nat.le_refl _⟩
    · split
      · exact ⟨rfl, rfl, rfl, Nat.le_refl _⟩
      · split
        · exact ⟨rfl, rfl, rfl, Nat.le_refl _⟩
        · split <;> exact ⟨rfl, rfl, rfl, Nat.le_refl _⟩
  | stringValue id =>
    simp only [stringValue]
    split <;> exact ⟨rfl, rfl, rfl, Nat.le_refl _⟩
  | invokeToString thread id =>
    simp only [invokeToString]
    split <;> exact ⟨rfl, rfl, rfl, Nat.le_refl _⟩
  | invokeStatic thread owner method args => cases h
  | disableCollection id => cases h
  | enableCollection id => cases h

/-- A static call leaves the objects alone until the helper's reply is settled, if it comes to that. -/
theorem sameObjects_invokeStatic (d : Debuggee) (thread : ThreadId) (owner : ClassHandle)
    (method : MethodId) (args : List Value) :
    ∃ asked, d.SameObjects asked ∧ ((d.invokeStatic thread owner method args).2 = asked ∨
      ∃ reply, (d.invokeStatic thread owner method args).2 = (asked.settle reply).2) := by
  have hnoted : d.SameObjects (d.noted (.invokeStatic thread owner method args)) :=
    ⟨rfl, rfl, rfl, Nat.le_refl _⟩
  unfold invokeStatic
  dsimp only
  split
  · exact ⟨_, hnoted, .inl rfl⟩
  · split
    · exact ⟨_, hnoted, .inl rfl⟩
    · split
      · exact ⟨_, hnoted, .inl rfl⟩
      · exact ⟨_, hnoted, .inl rfl⟩
      · refine ⟨{ d.noted (.invokeStatic thread owner method args) with
          invocations := d.invocations + 1 }, ⟨rfl, rfl, rfl, Nat.le_refl _⟩, .inr ⟨_, rfl⟩⟩

/-- Classes are no objects. -/
theorem sameObjects_defineClass (d : Debuggee) (name : String) :
    d.SameObjects (d.defineClass name).2 := by
  unfold defineClass
  split
  · exact ⟨rfl, rfl, rfl, Nat.le_refl _⟩
  · exact ⟨rfl, rfl, rfl, Nat.le_succ _⟩

theorem sameObjects_defineMethod (d : Debuggee) (owner name signature : String) :
    d.SameObjects (d.defineMethod owner name signature).2 := by
  have howner := d.sameObjects_defineClass owner
  exact ⟨howner.strings, howner.collected, howner.pinned, Nat.le_succ_of_le howner.lastId⟩

end Debuggee

/-- A call changes the debuggee the same way whether it is seen as a call of the link or by itself. -/
theorem Link.debuggee_perform (link : Link) (call : Call) :
    (link.perform call).2.debuggee = link.debuggee.afterCall call := by
  cases call with
  | invokeStatic thread owner method args =>
    have hcall : (link.invokeStatic thread owner method args).2.debuggee =
        link.debuggee.afterCall (.invokeStatic thread owner method args) := rfl
    rw [← hcall]
    unfold perform
    dsimp only
    rcases link.invokeStatic thread owner method args with ⟨payload | result, l⟩ <;> rfl
  | _ => rfl

/-! ## Attempts -/

namespace Attempt

variable {P : Debuggee → Prop} {α β : Type}

/-- Whether work of an attempt keeps a property of the debuggee, however it ends. -/
def Keeps (P : Debuggee → Prop) (a : Attempt α) : Prop :=
  ∀ link : Link, P link.debuggee → P (a.run.run.run link).2.debuggee

/-- Attempts in a row keep what each of them keeps. -/
theorem Keeps.of_bind {a : Attempt α} {f : α → Attempt β} (ha : Keeps P a)
    (hf : ∀ x, Keeps P (f x)) : Keeps P (a >>= f) := by
  intro link h
  have hfirst := ha link h
  rw [run_bind]
  rcases hr : a.run.run.run link with ⟨payload | fault | x, l⟩ <;> rw [hr] at hfirst
  · exact hfirst
  · exact hfirst
  · exact hf x l hfirst

theorem Keeps.of_throw (fault : BatchFault) : Keeps P (throw fault : Attempt α) := fun _ h => h

/-- A call keeps what it does not change, whether or not its error ends the attempt. -/
theorem Keeps.of_ask {call : Link → Except RemoteError α × Link} (fault : RemoteError → BatchFault)
    (h : ∀ link : Link, P link.debuggee → P (call link).2.debuggee) : Keeps P (ask call fault) := by
  intro link hp
  have hcall := h link hp
  show P (ask call fault link).2.debuggee
  unfold ask
  rcases hr : call link with ⟨_ | _, l⟩ <;> rwa [hr] at hcall

/-- An attempt keeps what is kept by the calls up to the reply and by reading the reply. -/
theorem keeps_evaluate
    (calls : ∀ d call, call.isPinning = false → P d → P (Debuggee.afterCall d call))
    (reads : ∀ reply, Keeps P (replyText reply)) (settings : DebuggerSettings) (helper : Helper)
    (context : Context) (values : List Value) :
    Keeps P (evaluate settings helper context values) := by
  unfold evaluate
  cases context.scope.thread with
  | none => exact .of_throw _
  | some thread =>
    refine .of_bind (.of_ask _ fun link => calls link.debuggee (.findClass _ _ _) rfl)
      fun elements => ?_
    refine .of_bind (.of_ask _ fun link => calls link.debuggee (.newArray _ _) rfl) fun array => ?_
    refine .of_bind (.of_ask _ fun link => calls link.debuggee (.setArrayValues _ _) rfl)
      fun _ => ?_
    have hinvoke : Keeps P (invoke helper thread array) := by
      intro link h
      have hcall : P (link.invokeStatic thread helper.owner helper.method
          [.object Value.arrayTag array]).2.debuggee :=
        calls link.debuggee (.invokeStatic _ _ _ _) rfl h
      show P (invoke helper thread array link).2.debuggee
      unfold invoke
      rcases hr : link.invokeStatic thread helper.owner helper.method
        [.object Value.arrayTag array] with ⟨payload | error | v, l⟩ <;> rwa [hr] at hcall
    refine hinvoke.of_bind fun reply => ?_
    refine (reads reply).of_bind fun text => ?_
    exact fun _ h => h

/-- Reading a reply keeps what every call keeps. -/
theorem keeps_replyText (calls : ∀ d call, P d → P (Debuggee.afterCall d call)) (reply : Value) :
    Keeps P (replyText reply) := by
  unfold replyText
  cases stringId? reply with
  | none => exact .of_throw _
  | some id =>
    refine .of_bind (.of_ask _ fun link => calls link.debuggee (.disableCollection id)) fun _ => ?_
    refine .of_ask _ fun link h => ?_
    have hread : P (link.stringValue id).2.debuggee := calls link.debuggee (.stringValue id) h
    have hrelease : P ((link.stringValue id).2.enableCollection id).2.debuggee :=
      calls (link.stringValue id).2.debuggee (.enableCollection id) hread
    unfold readAndRelease
    dsimp only
    unfold release
    rcases hr : (link.stringValue id).2.enableCollection id with ⟨error | _, l⟩ <;>
      rwa [hr] at hrelease

end Attempt

/-- Whether a property of the debuggee outlasts what a session does of its own accord. -/
structure Debuggee.Lasting (P : Debuggee → Prop) : Prop where
  lookUp : ∀ d call, call.isLookUp = true → P d → P (Debuggee.afterCall d call)
  display : ∀ d call, call.isDisplay = true → P d → P (Debuggee.afterCall d call)
  attempt : ∀ settings helper context values,
    Attempt.Keeps P (Attempt.evaluate settings helper context values)

/-- What every call keeps outlasts all that a session does of its own accord. -/
theorem Debuggee.Lasting.of_afterCall {P : Debuggee → Prop}
    (calls : ∀ d call, P d → P (Debuggee.afterCall d call)) : Debuggee.Lasting P where
  lookUp d call _ := calls d call
  display d call _ := calls d call
  attempt := Attempt.keeps_evaluate (fun d call _ => calls d call) (Attempt.keeps_replyText calls)

/-- Whether a property of the debuggee outlasts what a step of the embedder does to the debuggee. -/
def Step.Spares (P : Debuggee → Prop) : Step → Prop
  | .defineClass name => ∀ d, P d → P (d.defineClass name).2
  | .defineMethod owner name signature => ∀ d, P d → P (d.defineMethod owner name signature).2
  | .setDisplay id outcome => ∀ d, P d → P (d.setDisplay id outcome)
  | .fail operation error => ∀ d, P d → P (d.setFailure operation error)
  | .setHandler handler => ∀ d, P d → P (d.setHandler handler)
  | .call asked => ∀ d, P d → P (d.afterCall asked)
  | _ => True

namespace Session

/-- Whether a property of the debuggee is kept between two sessions. -/
def Keeps (P : Debuggee → Prop) (s s' : Session) : Prop := P s.link.debuggee → P s'.link.debuggee

variable {P : Debuggee → Prop} {s s' : Session}

instance : Std.Refl (Keeps P) := ⟨fun _ h => h⟩

instance : IsTrans Session (Keeps P) := ⟨fun _ _ _ h h' => h' ∘ h⟩

theorem Keeps.of_eq (h : s'.link.debuggee = s.link.debuggee) : Keeps P s s' := by
  intro hp
  rwa [h]

/-! ## Requests -/

/-- Completing a request keeps everything, for sinks have no access to the debuggee. -/
theorem keeps_complete (request : Request) (completion : Completion) :
    Along (Keeps P) (complete request completion) :=
  fun s => .of_eq (debuggee_complete request completion s)

variable (lasting : Debuggee.Lasting P)

include lasting

/-- A call of `toString` keeps what outlasts these calls. -/
theorem keeps_evaluateIndividually (request : Request) :
    Along (Keeps P) (evaluateIndividually request) := by
  refine .of_bind (fun s hp => ?_) fun _ => keeps_complete request _
  show P (individualText request.value request.context.scope.thread s.link).2.debuggee
  unfold individualText
  split
  · exact hp
  · exact hp
  · exact hp
  · exact lasting.display s.link.debuggee (.invokeToString _ _) rfl hp

/-- A batch attempt keeps what outlasts it as a whole. -/
theorem keeps_evaluateBatch (helper : Helper) (context : Context) (requests : List Request) :
    Along (Keeps P) (evaluateBatch helper context requests) := by
  intro s hp
  have hattempt := lasting.attempt s.settings helper context (requests.map (·.value)) s.link hp
  rcases hr : (Attempt.evaluate s.settings helper context (requests.map (·.value))).run.run.run
    s.link with ⟨payload | fault | entries, link⟩ <;> rw [hr] at hattempt <;>
    rw [run_evaluateBatch, run_attemptBatch hr] <;> dsimp only
  · exact hattempt
  · exact hattempt
  · obtain ⟨hsame, -⟩ := delivers_deliver requests entries (s.withLink link)
    rcases hd : (deliver requests entries).run.run (s.withLink link) with ⟨payload | _, s'⟩ <;>
      rw [hd] at hsame
    · exact Keeps.of_eq (s := s.withLink link) hsame hattempt
    · exact Keeps.of_eq (s := s.withLink link) hsame hattempt

/-- Whichever way requests are evaluated, the property is kept. -/
theorem keeps_evaluateAll (context : Context) (requests : List Request) :
    Along (Keeps P) (evaluateAll context requests) := by
  have htogether : Along (Keeps P) (evaluateTogether context requests) := by
    intro s
    rw [run_evaluateTogether]
    cases s.probe.helper? with
    | none => exact Std.Refl.refl s
    | some helper => exact keeps_evaluateBatch lasting helper context requests s
  refine .of_bind htogether fun ⟨completed, left⟩ => ?_
  cases completed with
  | true => exact .of_pure _
  | false => exact .of_forM fun request _ => keeps_evaluateIndividually lasting request

/-- So a flush keeps it, also if it ends with a panic. -/
theorem keeps_flush (context : Context) : Along (Keeps P) (flush context) := by
  intro s
  have htaken : Keeps P s (s.takePending context.scope.id).2 := .of_eq rfl
  rw [run_flush]
  split
  · exact htaken
  · exact IsTrans.trans _ _ _ htaken (keeps_evaluateAll lasting context _ _)

/-! ## Submissions -/

/-- Looking for the helper keeps it. -/
theorem ask_keeps (settings : DebuggerSettings) (context : Context) (probe : Probe) (link : Link)
    (hp : P link.debuggee) : P (probe.ask settings context link).2.debuggee := by
  have hlookUp : ∀ thread, P (Probe.lookUp settings thread context.loader link).2.debuggee := by
    intro thread
    have hclass : P (link.findClass thread settings.helperClass context.loader).2.debuggee :=
      lasting.lookUp link.debuggee (.findClass _ _ _) rfl hp
    unfold Probe.lookUp
    rcases hf : link.findClass thread settings.helperClass context.loader with ⟨error | owner, l⟩ <;>
      rw [hf] at hclass
    · exact hclass
    · have hmethod :
          P (l.findMethod owner settings.helperMethod settings.helperSignature).2.debuggee :=
        lasting.lookUp l.debuggee (.findMethod _ _ _) rfl hclass
      dsimp only
      rcases hm : l.findMethod owner settings.helperMethod settings.helperSignature with
        ⟨error | _ | method, l'⟩ <;> rw [hm] at hmethod <;> exact hmethod
  unfold Probe.ask
  split
  · exact hp
  · exact hp
  · exact hlookUp _
  · exact hp

theorem keeps_askProbe (s : Session) (context : Context) : Keeps P s (s.askProbe context).2 := by
  intro hp
  unfold askProbe
  split
  · exact ask_keeps lasting s.settings context s.probe s.link hp
  · exact hp

/-- A submission does no more than look for the helper. -/
theorem keeps_submit (s : Session) (request : Request) : Keeps P s (s.submit request) := by
  have hinvoke : ∀ (t : Session) task, Keeps P t (t.invoke task) := by
    intro t task
    unfold invoke
    dsimp only
    split <;> exact .of_eq rfl
  exact along_submit (fun _ _ => .of_eq rfl) (fun _ _ => .of_eq rfl) (keeps_askProbe lasting) hinvoke
    (fun _ _ => .of_eq rfl) s request

/-! ## Steps and turns -/

/-- A step keeps it if what the embedder does to the debuggee with it does. -/
theorem keeps_perform {step : Step} (spares : step.Spares P) : Along (Keeps P) (perform step) := by
  have hsubmission : ∀ submission, Along (Keeps P)
      (withRequest submission fun request => changing (·.submit request)) := fun submission =>
    along_withRequest (fun _ => .of_eq rfl) submission fun request s =>
      keeps_submit lasting s request
  -- most steps leave the debuggee alone; the rest call it, or are what the embedder does to it
  cases step with
  | submit submission => exact hsubmission submission
  | submitRequest submission => exact hsubmission submission
  | available place =>
    exact along_withContext place fun context s => keeps_askProbe lasting s context
  | invalidate index =>
    intro s
    show Keeps P s (s.invalidateAt index)
    rw [invalidateAt_eq]
    exact .of_eq rfl
  | invoke command => exact fun s => .of_eq (debuggee_offer s command)
  | request submission ending =>
    refine along_withRequest (fun _ => .of_eq rfl) submission fun request => ?_
    exact along_finish (keeps_complete request) fun _ => keeps_evaluateIndividually lasting request
  | evaluateBatch place helper values =>
    refine along_withContext place fun context s hp => ?_
    have hbatch := keeps_evaluateBatch lasting helper context (s.makePlain context values).1
      (s.makePlain context values).2 hp
    rw [run_batchByHand]
    rcases hr : (evaluateBatch helper context (s.makePlain context values).1).run.run
      (s.makePlain context values).2 with ⟨payload | ⟨evaluated, left⟩, s'⟩ <;> rwa [hr] at hbatch
  | probe place =>
    exact along_withContext place fun context s hp =>
      ask_keeps lasting s.settings context s.spareProbe s.link hp
  | defineClass name => exact fun s hp => spares s.link.debuggee hp
  | defineMethod owner name signature => exact fun s hp => spares s.link.debuggee hp
  | setDisplay id outcome => exact fun s hp => spares s.link.debuggee hp
  | fail operation error => exact fun s hp => spares s.link.debuggee hp
  | setHandler handler => exact fun s hp => spares s.link.debuggee hp
  | call call =>
    intro s hp
    have hcall := spares s.link.debuggee hp
    rw [← Link.debuggee_perform] at hcall
    show P (callDirectly call s).2.link.debuggee
    unfold callDirectly
    rcases hr : s.link.perform call with ⟨payload | outcome, link⟩ <;> rwa [hr] at hcall
  | panic payload => exact .of_throw payload
  | _ => exact fun s => .of_eq rfl

/-- A turn keeps it if the steps of its command do. -/
theorem keeps_turn (spares : ∀ p ∈ s.stepsAt .turn, p.2.Spares P) : Keeps P s (s.after .turn) := by
  cases hw : s.queue.waiting with
  | nil =>
    rw [after_turn_of_nil hw]
    exact Std.Refl.refl s
  | cons task rest =>
    have hcontain : ∀ {action : Action Unit}, Along (Keeps P) action → ∀ cancelled t,
        Keeps P t (contain cancelled action t) := by
      intro action along cancelled t hp
      have hact := along t hp
      unfold contain
      rcases hr : action.run.run t with ⟨payload | _, t'⟩ <;> rwa [hr] at hact
    cases task with
    | flush context =>
      rw [after_turn_eq_contain hw]
      refine IsTrans.trans _ (s.taken rest) _ (.of_eq rfl) (hcontain ?_ _ _)
      split
      · exact fun t => .of_eq rfl
      · exact keeps_flush lasting context
    | individual request =>
      rw [after_turn_eq_contain hw]
      refine IsTrans.trans _ (s.taken rest) _ (.of_eq rfl) (hcontain ?_ _ _)
      split
      · exact .of_pure _
      · exact keeps_evaluateIndividually lasting request
    | command command scope =>
      refine IsTrans.trans _ (s.taken rest) _ (.of_eq rfl) ?_
      exact along_turn_command hw (fun _ _ _ => .of_eq rfl) (fun _ _ _ => .of_eq rfl)
        fun p hp name =>
          along_stepped (keeps_perform lasting (spares p hp) p.1) fun _ _ => .of_eq rfl

/-- So does every event whose steps do. -/
theorem keeps_after {event : Event} (spares : ∀ p ∈ s.stepsAt event, p.2.Spares P) :
    Keeps P s (s.after event) := by
  cases event with
  | step step => exact keeps_perform lasting (spares (s, step) (List.mem_singleton.2 rfl)) s
  | turn => exact keeps_turn lasting spares
  | dropSender =>
    refine .of_eq ?_
    simp only [after, dropOwnSender]
    split <;> rfl
  | dropQueue => exact .of_eq rfl

/-- What outlasts all that a session does of its own accord, and all that its embedder does to the debuggee, is kept
in a run. -/
theorem keeps_play {events : List Event} (spares : ∀ p ∈ s.steps events, p.2.Spares P) :
    Keeps P s (s.play events) := by
  induction events generalizing s with
  | nil => exact Std.Refl.refl s
  | cons event rest ih =>
    have hfirst := keeps_after lasting fun p hp => spares p (List.mem_append_left _ hp)
    exact IsTrans.trans _ _ _ hfirst (ih fun p hp => spares p (List.mem_append_right _ hp))

end Session

end BatchStringify
