import BatchStringify.Proofs.Answering
import BatchStringify.Proofs.FlushCalls

/-!
# Checks that nothing runs into

Both sides check more than they have to. A flush looks whether its batch is empty; the debuggee looks whether an array
exists, has room and takes the values, and whether a static call passes one array; and a value that has no text of
its own could be one without an object. Each of these is ruled out somewhere else. Only objects are gathered, a batch
has a request from the moment at which its flush is sent, and an attempt fills the array that it has just
created with as many values as it asked room for. So if a flush fails at all, it fails as the debuggee was set to or as
its helper chose (`defences_unreached`).
-/

namespace BatchStringify

namespace Debuggee

/-! ## What the calls of an attempt come to -/

/-- What storing values comes to if nothing but a failure that is set stands in the way. -/
def storeOutcome (d : Debuggee) : Outcome :=
  .of (fun _ => .done) ((d.failures.find? .setArrayValues).elim (.ok ()) .error)

/-- What running the helper on an array of these elements comes to: the failure that is set, or else what becomes of the
helper's reply, if there is a helper to reply. -/
def helperResult (d : Debuggee) (elements : List Value) : Except Panic (Except RemoteError Value) :=
  match d.failures.find? .invokeStatic, d.reply? elements with
  | some error, _ => .ok (.error error)
  | none, none => .ok (.error (.evaluation "no mock batch handler"))
  | none, some reply => (d.settle reply).1

/-- Whether an exchange of an attempt over these values fails only as the debuggee is set to fail: what is stored is
these values, in the array that gets the next number, and the helper is run on that array. -/
def FailsAsSet (d : Debuggee) (values : List Value) : Call × Outcome → Prop
  | (.setArrayValues array stored, outcome) =>
    array = d.allocate.1 ∧ stored = values ∧ outcome = d.storeOutcome
  | (.invokeStatic _ _ _ args, outcome) =>
    args = [.object Value.arrayTag d.allocate.1] ∧
      outcome = .ofPanicking (d.allocate.2.helperResult values)
  | _ => True

/-- Whether two debuggees come to the same when they are asked the same: the same operations fail, the helper behaves
alike, and the next number is the same. -/
structure SameAnswers (d d' : Debuggee) : Prop where
  failures : d'.failures = d.failures
  handler : d'.handler = d.handler
  invocations : d'.invocations = d.invocations
  lastId : d'.lastId = d.lastId

variable {d d' d'' : Debuggee}

theorem SameAnswers.refl (d : Debuggee) : d.SameAnswers d := ⟨rfl, rfl, rfl, rfl⟩

theorem SameAnswers.trans (h : d.SameAnswers d') (h' : d'.SameAnswers d'') : d.SameAnswers d'' :=
  ⟨h'.failures.trans h.failures, h'.handler.trans h.handler, h'.invocations.trans h.invocations,
    h'.lastId.trans h.lastId⟩

/-- Giving out a number changes no answer. -/
theorem SameAnswers.allocate (h : d.SameAnswers d') : d.allocate.2.SameAnswers d'.allocate.2 :=
  ⟨h.failures, h.handler, h.invocations, congrArg (· + 1) h.lastId⟩

/-- Apart from the reply, only the next number matters. -/
theorem settle_eq_of_lastId (h : d'.lastId = d.lastId) (reply : HandlerReply) :
    (d'.settle reply).1 = (d.settle reply).1 := by
  cases reply <;> simp [settle, allocate, h]

/-- So the helper comes to the same for the same values. -/
theorem SameAnswers.helperResult_eq (h : d.SameAnswers d') (elements : List Value) :
    d'.helperResult elements = d.helperResult elements := by
  have hreply : d'.reply? elements = d.reply? elements := by
    rw [reply?, reply?, h.handler, h.invocations]
  unfold helperResult
  rw [h.failures, hreply]
  simp only [settle_eq_of_lastId h.lastId]

theorem SameAnswers.storeOutcome_eq (h : d.SameAnswers d') : d'.storeOutcome = d.storeOutcome := by
  rw [storeOutcome, storeOutcome, h.failures]

theorem findClass_sameAnswers (d : Debuggee) (thread : ThreadId) (name : String)
    (loader : Option ObjectId) : d.SameAnswers (d.findClass thread name loader).2 := by
  unfold findClass
  dsimp only
  split <;> exact ⟨rfl, rfl, rfl, rfl⟩

theorem setArrayValues_sameAnswers (d : Debuggee) (array : ObjectId) (values : List Value) :
    d.SameAnswers (d.setArrayValues array values).2 := by
  unfold setArrayValues
  dsimp only
  split
  · exact ⟨rfl, rfl, rfl, rfl⟩
  · split
    · exact ⟨rfl, rfl, rfl, rfl⟩
    · split
      · exact ⟨rfl, rfl, rfl, rfl⟩
      · split <;> exact ⟨rfl, rfl, rfl, rfl⟩

/-- If the array exists, a static call with it comes to what the helper makes of its elements. -/
theorem invokeStatic_eq (thread : ThreadId) (owner : ClassHandle) (method : MethodId)
    {array : ObjectId} {elements : List Value} (harray : d.arrays.find? array = some elements) :
    (d.invokeStatic thread owner method [.object Value.arrayTag array]).1 =
      d.helperResult elements := by
  have harg : arrayArgument? [.object Value.arrayTag array] = some array := by
    simp [arrayArgument?]
  unfold invokeStatic helperResult reply?
  dsimp only [noted]
  cases d.failures.find? .invokeStatic with
  | some error => rfl
  | none =>
    rw [harg]
    dsimp only
    rw [harray]
    cases hh : d.handler with
    | none => rfl
    | some handler =>
      refine settle_eq_of_lastId ?_ _
      rfl

/-- Whether a debuggee has created an array since, which holds these elements now, and nothing else has come of it. -/
structure Holds (d : Debuggee) (elements : List Value) (array : ObjectId) (d' : Debuggee) : Prop where
  array_eq : array = d.allocate.1
  answers : d.allocate.2.SameAnswers d'
  found : d'.arrays.find? array = some elements

/-- An array that is created gets the next number and holds nulls. -/
theorem SameAnswers.newArray (h : d.SameAnswers d') {owner : ClassHandle} {length : Nat}
    {array : ObjectId} (hd : d'.newArray owner length = (.ok array, d'')) :
    d.Holds (List.replicate length .null) array d'' := by
  have hfound := (newArray_ok hd).2
  unfold Debuggee.newArray at hd
  dsimp only at hd
  split at hd
  · cases hd
  · obtain ⟨harray, rfl⟩ := Prod.mk.inj hd
    obtain rfl := Except.ok.inj harray
    exact ⟨congrArg (· + 1) h.lastId, h.allocate.trans ⟨rfl, rfl, rfl, rfl⟩, hfound⟩

variable {array : ObjectId} {values : List Value}

/-- As many objects as the array has nulls can be stored in it, unless that is set to fail. -/
theorem Holds.storeOutcome_eq (h : d.Holds (List.replicate values.length .null) array d')
    (objects : ∀ v ∈ values, v.objectId?.isSome) :
    Outcome.of (fun _ => .done) (d'.setArrayValues array values).1 = d.storeOutcome := by
  rw [setArrayValues_eq h.found objects]
  exact h.answers.storeOutcome_eq

/-- An array of nulls of the right length holds just the values that are stored in it. -/
theorem Holds.setArrayValues (h : d.Holds (List.replicate values.length .null) array d')
    (hd : d'.setArrayValues array values = (.ok (), d'')) : d.Holds values array d'' := by
  have hsame := d'.setArrayValues_sameAnswers array values
  rw [hd] at hsame
  exact ⟨h.array_eq, h.answers.trans hsame, (setArrayValues_ok hd h.found).2⟩

/-- The helper is given the values that the array holds. -/
theorem Holds.invokeStatic_eq {elements : List Value} (h : d.Holds elements array d')
    (thread : ThreadId) (owner : ClassHandle) (method : MethodId) :
    (d'.invokeStatic thread owner method [.object Value.arrayTag array]).1 =
      d.allocate.2.helperResult elements := by
  rw [Debuggee.invokeStatic_eq thread owner method h.found, h.answers.helperResult_eq]

end Debuggee

/-! ## Attempts -/

namespace Attempt

variable {α β : Type} {pre : Debuggee → Prop} {allowed : Call × Outcome → Prop}

/-- Whether work of an attempt that finds the debuggee in some state makes only allowed exchanges, and leaves the
debuggee in a state that fits what it returns. -/
def Does (pre : Debuggee → Prop) (allowed : Call × Outcome → Prop) (a : Attempt α)
    (post : α → Debuggee → Prop) : Prop :=
  ∀ link : Link, pre link.debuggee →
    (∃ more, (a.run.run.run link).2.exchanges = link.exchanges ++ more ∧ ∀ x ∈ more, allowed x) ∧
    ∀ x l, a.run.run.run link = (.ok (.ok x), l) → post x l.debuggee

/-- An attempt goes on from what holds where its first part ended well. -/
theorem Does.of_bind {a : Attempt α} {f : α → Attempt β} {mid : α → Debuggee → Prop}
    {post : β → Debuggee → Prop} (ha : Does pre allowed a mid)
    (hf : ∀ x, Does (mid x) allowed (f x) post) : Does pre allowed (a >>= f) post := by
  intro link hpre
  obtain ⟨⟨more, hmore, hallowed⟩, hmid⟩ := ha link hpre
  rw [run_bind]
  rcases hr : a.run.run.run link with ⟨payload | fault | x, l⟩ <;> rw [hr] at hmore
  · exact ⟨⟨more, hmore, hallowed⟩, fun _ _ h => by cases h⟩
  · exact ⟨⟨more, hmore, hallowed⟩, fun _ _ h => by cases h⟩
  · obtain ⟨⟨more', hmore', hallowed'⟩, hpost⟩ := hf x l (hmid x l hr)
    refine ⟨⟨more ++ more', ?_, fun y hy => ?_⟩, hpost⟩
    · rw [← List.append_assoc, ← hmore]
      exact hmore'
    · exact (List.mem_append.1 hy).elim (hallowed y) (hallowed' y)

/-- Work that only lets the link grow makes allowed exchanges if all calls of its kind are allowed. -/
theorem Does.of_grows {a : Attempt α} (h : Grows (fun call => ∀ outcome, allowed (call, outcome)) a) :
    Does pre allowed a fun _ _ => True := by
  intro link _
  obtain ⟨more, hmore, haside⟩ := (h link).journal
  refine ⟨⟨more.filterMap Entry.exchange?, ?_, fun x hx => ?_⟩, fun _ _ _ => trivial⟩
  · rw [Link.exchanges, hmore, List.filterMap_append]
    rfl
  · obtain ⟨entry, hentry, hexchange⟩ := List.mem_filterMap.1 hx
    have hkind := haside entry hentry
    cases entry with
    | exchange call outcome =>
      obtain rfl := Option.some.inj hexchange
      exact hkind outcome
    | _ => cases hexchange

/-- A call does what the debuggee does, and its exchange has to be allowed. -/
theorem Does.of_ask {call : Link → Except RemoteError α × Link} {asked : Call}
    {post : α → Debuggee → Prop} (answer : Debuggee → Except RemoteError α × Debuggee)
    (fault : RemoteError → BatchFault) (outcome : α → Outcome)
    (made : ∀ link, call link = ((answer link.debuggee).1,
      link.exchanged asked (.of outcome (answer link.debuggee).1) (answer link.debuggee).2))
    (allows : ∀ d, pre d → allowed (asked, .of outcome (answer d).1))
    (leaves : ∀ d x d', pre d → answer d = (.ok x, d') → post x d') :
    Does pre allowed (ask call fault) post := by
  intro link hpre
  have hallowed := allows link.debuggee hpre
  show (∃ more, (ask call fault link).2.exchanges = _ ∧ _) ∧
    ∀ x (l : Link), ask call fault link = _ → post x l.debuggee
  unfold ask
  rw [made link]
  rcases hr : answer link.debuggee with ⟨error | x, d'⟩ <;> rw [hr] at hallowed
  · exact ⟨⟨_, link.exchanges_exchanged _ _ _, List.forall_mem_singleton.2 hallowed⟩, fun _ _ h => by cases h⟩
  · refine ⟨⟨_, link.exchanges_exchanged _ _ _, List.forall_mem_singleton.2 hallowed⟩, fun y l h => ?_⟩
    obtain ⟨hy, rfl⟩ := Prod.mk.inj h
    obtain rfl := Except.ok.inj (Except.ok.inj hy)
    exact leaves link.debuggee x d' hpre hr

/-- The helper is run on an array that exists and comes to what its elements make it come to. -/
theorem invoke_does (helper : Helper) (thread : ThreadId) (array : ObjectId)
    (allows : ∀ d, pre d → allowed (.invokeStatic thread helper.owner helper.method
      [.object Value.arrayTag array], .ofPanicking (d.invokeStatic thread helper.owner
        helper.method [.object Value.arrayTag array]).1)) :
    Does pre allowed (invoke helper thread array) fun _ _ => True := by
  intro link hpre
  have hmade := link.exchanges_exchanged (.invokeStatic thread helper.owner helper.method
    [.object Value.arrayTag array]) (.ofPanicking (link.debuggee.invokeStatic thread helper.owner
      helper.method [.object Value.arrayTag array]).1) (link.debuggee.invokeStatic thread
        helper.owner helper.method [.object Value.arrayTag array]).2
  refine ⟨⟨_, ?_, List.forall_mem_singleton.2 (allows link.debuggee hpre)⟩, fun _ _ _ => trivial⟩
  rw [← hmade]
  show (invoke helper thread array link).2.exchanges = _
  unfold invoke Link.invokeStatic
  dsimp only
  rcases link.debuggee.invokeStatic thread helper.owner helper.method
    [.object Value.arrayTag array] with ⟨payload | error | v, d'⟩ <;> rfl

variable (settings : DebuggerSettings) (helper : Helper) (context : Context)

/-- In an attempt over objects the array has room for them, and the helper finds them in it. -/
theorem evaluate_failsAsSet {values : List Value} (objects : ∀ v ∈ values, v.objectId?.isSome)
    (link : Link) :
    ∃ more, ((evaluate settings helper context values).run.run.run link).2.exchanges =
      link.exchanges ++ more ∧ ∀ x ∈ more, link.debuggee.FailsAsSet values x := by
  let d₀ := link.debuggee
  have hfind : ∀ thread, Does d₀.SameAnswers (d₀.FailsAsSet values)
      (ask (·.findClass thread settings.arrayType context.loader) .arrayTypeUnavailable)
      fun _ => d₀.SameAnswers := by
    intro thread
    refine .of_ask (·.findClass thread settings.arrayType context.loader) _ .owner
      (fun _ => rfl) (fun _ _ => trivial) fun d _ d' h hd => ?_
    have hsame := d.findClass_sameAnswers thread settings.arrayType context.loader
    rw [hd] at hsame
    exact h.trans hsame
  have hcreate : ∀ elements, Does d₀.SameAnswers (d₀.FailsAsSet values)
      (ask (·.newArray elements values.length))
      (d₀.Holds (List.replicate values.length .null)) := fun elements =>
    .of_ask (·.newArray elements values.length) _ .id (fun _ => rfl)
      (fun _ _ => trivial) fun _ _ _ h hd => h.newArray hd
  have hstore : ∀ array, Does (d₀.Holds (List.replicate values.length .null) array)
      (d₀.FailsAsSet values) (ask (·.setArrayValues array values))
      fun _ => d₀.Holds values array := fun array =>
    .of_ask (·.setArrayValues array values) _ (fun _ => .done) (fun _ => rfl)
      (fun _ h => ⟨h.array_eq, rfl, h.storeOutcome_eq objects⟩) fun _ _ _ h hd => h.setArrayValues hd
  have hinvoke : ∀ thread array, Does (d₀.Holds values array) (d₀.FailsAsSet values)
      (invoke helper thread array) fun _ _ => True := fun thread array =>
    invoke_does helper thread array fun _ h => by
      rw [h.invokeStatic_eq, h.array_eq]
      exact ⟨rfl, rfl⟩
  have hread : ∀ reply, Does (fun _ => True) (d₀.FailsAsSet values) (replyText reply)
      fun _ _ => True := fun reply =>
    .of_grows (replyText_grows (fun _ _ => trivial) (fun _ _ => trivial) (fun _ _ => trivial) reply)
  have hdoes : Does d₀.SameAnswers (d₀.FailsAsSet values)
      (evaluate settings helper context values) fun _ _ => True := by
    unfold evaluate
    cases context.scope.thread with
    | none => exact .of_grows (.of_throw _)
    | some thread =>
      refine (hfind thread).of_bind fun elements => ?_
      refine (hcreate elements).of_bind fun array => ?_
      refine (hstore array).of_bind fun _ => ?_
      refine (hinvoke thread array).of_bind fun reply => ?_
      refine (hread reply).of_bind fun text => ?_
      exact .of_grows fun link => .refl link
  exact (hdoes link (.refl _)).1

end Attempt

/-- The ways in which a value comes to its text when it is evaluated on its own: it has one, or it refers to an object,
and then either there is no thread or `toString` is called. -/
inductive Value.TextOf (value : Value) (thread : Option ThreadId) (link : Link) :
    Except RemoteError String × Link → Prop where
  | rendered {text : String} (local_eq : value.localText? = some text) :
      TextOf value thread link (.ok text, link)
  | threadless {id : ObjectId} (object_eq : value.objectId? = some id) (thread_eq : thread = none) :
      TextOf value thread link (.error (.evaluation "no suspended thread to evaluate on"), link)
  | asked {id : ObjectId} {found : ThreadId} (object_eq : value.objectId? = some id)
      (thread_eq : thread = some found) : TextOf value thread link (link.invokeToString found id)

namespace Session

/-- There is no value but has a text of its own or refers to an object. -/
theorem individualText_textOf (value : Value) (thread : Option ThreadId) (link : Link) :
    value.TextOf thread link (individualText value thread link) := by
  have hobject := value.localText?_isNone
  unfold individualText
  split
  · next text hlocal => exact .rendered hlocal
  · next hlocal hnone =>
    rw [hlocal, hnone] at hobject
    cases hobject
  · next hsome => exact .threadless hsome rfl
  · next hsome => exact .asked hsome rfl

variable {s : Session} {context : Context} {requests : List Request}

/-- An evaluation of objects fails only as it was set to, apart from the calls of `toString`. -/
theorem makes_evaluateAll (context : Context)
    (objects : ∀ request ∈ requests, request.value.objectId?.isSome) (s : Session) :
    Makes (s.link.debuggee.FailsAsSet (requests.map (·.value))) s
      ((evaluateAll context requests).run.run s).2 := by
  have hindividually : ∀ t, Makes (s.link.debuggee.FailsAsSet (requests.map (·.value))) t
      ((requests.forM evaluateIndividually).run.run t).2 := by
    intro t
    refine (makes_individually requests t).mono fun x hx => ?_
    obtain ⟨call, outcome⟩ := x
    cases call with
    | invokeToString thread id => trivial
    | _ => cases hx
  rw [run_evaluateAll, run_evaluateTogether]
  cases hp : s.probe.helper? with
  | none => exact hindividually s
  | some helper =>
    have hvalues : ∀ v ∈ requests.map (·.value), v.objectId?.isSome := by
      intro v hv
      obtain ⟨request, hrequest, rfl⟩ := List.mem_map.1 hv
      exact objects request hrequest
    obtain ⟨more, hmore, hallowed⟩ :=
      Attempt.evaluate_failsAsSet s.settings helper context hvalues s.link
    dsimp only
    rcases hr : (Attempt.evaluate s.settings helper context (requests.map (·.value))).run.run.run
      s.link with ⟨payload | fault | entries, link⟩ <;> rw [hr] at hmore <;>
      rw [run_evaluateBatch, run_attemptBatch hr] <;> dsimp only
    · exact ⟨more, hmore, hallowed⟩
    · have hattempt : Makes (s.link.debuggee.FailsAsSet (requests.map (·.value))) s
          ((s.withLink link).note (.batchFailed context.scope.id requests.length fault)) :=
        ⟨more, (exchanges_note _ _).trans hmore, hallowed⟩
      exact IsTrans.trans _ _ _ hattempt (hindividually _)
    · have hdelivered := exchanges_deliver requests entries (s.withLink link)
      rcases hd : (deliver requests entries).run.run (s.withLink link) with ⟨payload | _, s'⟩ <;>
        rw [hd] at hdelivered <;> exact ⟨more, hdelivered.trans hmore, hallowed⟩

/-- So does the turn of a flush whose batch consists of objects. If it is cancelled, it makes no calls. -/
theorem makes_flush {rest : List Task} (waiting : s.queue.waiting = .flush context :: rest)
    (pending : s.pending.find? context.scope.id = some requests) (nonempty : requests ≠ [])
    (objects : ∀ request ∈ requests, request.value.objectId?.isSome) :
    Makes (s.link.debuggee.FailsAsSet (requests.map (·.value))) s (s.after .turn) := by
  cases valid : s.suspensions.isValid context.scope with
  | true =>
    rw [after_flush waiting pending nonempty valid]
    obtain ⟨more, hmore, hallowed⟩ :=
      makes_evaluateAll context objects ((s.taken rest).takePending context.scope.id).2
    exact ⟨more, (exchanges_contain _ _ _).trans hmore, hallowed⟩
  | false =>
    have hcancelled : s.isCancelled (.flush context) = true :=
      isCancelled_iff.2 ⟨context.scope, rfl, valid⟩
    rw [after_turn_eq_contain waiting, hcancelled]
    exact .of_eq ((exchanges_contain _ _ _).trans (exchanges_note _ _))

/-- While the queue is open, a flush that is next finds its batch. -/
theorem exists_batch_of_flush {rest : List Task} (sound : s.ledger.Sound)
    (isOpen : s.queue.isOpen = true) (waiting : s.queue.waiting = .flush context :: rest) :
    ∃ requests, s.pending.find? context.scope.id = some requests := by
  have hflushes : s.ledger.flushes.map (·.id) = s.pending.keys := sound.flushes_eq isOpen
  have hmem : context.scope.id ∈ s.pending.keys := by
    rw [← hflushes]
    show context.scope.id ∈ (s.queue.waiting.filterMap Task.flushScope?).map (·.id)
    rw [waiting]
    exact List.mem_cons_self
  exact Option.isSome_iff_exists.1 ((s.pending.find?_isSome_iff context.scope.id).2 hmem)

variable (debuggee : Debuggee) (settings : DebuggerSettings) (connection : Connection)

/-- Whatever the debuggee has become: only objects wait in batches. While the queue is open, a flush that is next
takes a batch that is not empty. Of what is called in its turn, values are only stored in the array that was created
for them, and the helper is only run on that array while it holds them, so that both fail only as the debuggee was
set to or as its helper chose. And no value lacks both a text of its own and an object, so no evaluation on its own
ends with that error. -/
theorem defences_unreached (run : List ((Debuggee → Debuggee) × Event))
    (change : Debuggee → Debuggee) :
    let s := ((start debuggee settings connection).playUnder run).meddled change
    (∀ id batch, (id, batch) ∈ s.pending.entries →
      ∀ request ∈ batch, request.value.objectId?.isSome ∧ request.value.localText? = none) ∧
    (s.queue.isOpen = true → ∀ context rest, s.queue.waiting = .flush context :: rest →
      ∃ requests, ((s.taken rest).takePending context.scope.id).1 = requests ∧ requests ≠ [] ∧
        (∀ request ∈ requests, request.value.objectId?.isSome) ∧
        ∀ x ∈ s.exchangesSince (s.after .turn),
          s.link.debuggee.FailsAsSet (requests.map (·.value)) x) ∧
    ∀ value thread link, Value.TextOf value thread link (individualText value thread link) := by
  intro s
  have hsound : s.ledger.Sound := sound_playUnder run (sound_start debuggee settings connection)
  refine ⟨fun id batch hbatch request hrequest => ?_, fun isOpen context rest waiting => ?_,
    individualText_textOf⟩
  · have hobject := ((hsound.batches _ hbatch).2 request hrequest).2
    refine ⟨hobject, ?_⟩
    rw [← Option.isNone_iff_eq_none, Value.localText?_isNone]
    exact hobject
  · obtain ⟨requests, hpending⟩ := exists_batch_of_flush hsound isOpen waiting
    obtain ⟨nonempty, hbatch⟩ := hsound.batch hpending
    have hobjects : ∀ request ∈ requests, request.value.objectId?.isSome :=
      fun request hrequest => (hbatch request hrequest).2
    refine ⟨requests, ?_, nonempty, hobjects, ?_⟩
    · show (s.pending.find? context.scope.id).getD [] = requests
      rw [hpending]
      rfl
    · exact (makes_flush waiting hpending nonempty hobjects).since.2

/-- Two objects of one stop, and a third one of another stop. -/
def twoBatches : List Event :=
  [.step (.suspend 0 (some 1)), .step (.suspend 0 (some 1)),
    .step (.submit ⟨"a", .object 76 2, ⟨0, none, none⟩, ⟨[], [], [], none⟩⟩),
    .step (.submit ⟨"b", .object 76 3, ⟨0, none, none⟩, ⟨[], [], [], none⟩⟩),
    .step (.submit ⟨"c", .object 76 4, ⟨1, none, none⟩, ⟨[], [], [], none⟩⟩)]

/-- The first flush stores its two objects in the array that was created for them, and the helper is run on it. -/
theorem defences_unreached_twoBatches :
    let s := ((start .withHelper {} .localProcess).playUnder (twoBatches.map (id, ·))).meddled id
    (∃ requests : List Request, requests ≠ [] ∧ ∀ x ∈ s.exchangesSince (s.after .turn),
      s.link.debuggee.FailsAsSet (requests.map (·.value)) x) ∧
    ((s.exchangesSince (s.after .turn)).drop 2).take 2 =
      [(.setArrayValues 10004 [.object 76 2, .object 76 3], .done),
        (.invokeStatic 1 ⟨10002, "com.intellij.rt.debugger.BatchEvaluatorServer"⟩ 10003
          [.object Value.arrayTag 10004], .value (.object Value.stringTag 10005))] := by
  obtain ⟨-, hflush, -⟩ := defences_unreached .withHelper {} .localProcess
    (twoBatches.map (id, ·)) id
  obtain ⟨requests, -, nonempty, -, hcalls⟩ :=
    hflush (by decide +kernel) ⟨⟨1, some 1, 0⟩, none, .localProcess⟩ _ rfl
  exact ⟨⟨requests, nonempty, hcalls⟩, by decide +kernel⟩

end Session

end BatchStringify
