import BatchStringify.Proofs.Answering
import BatchStringify.Proofs.Grounded

/-!
# What a batch comes to

What a batch of objects comes to depends on what the debuggee was set up with and on the values, if the helper
looks at nothing but the elements that it is handed: not on the arrays and strings that other batches left
behind, nor on the numbers that objects got (`Attempt.comesTo_eq`). So it is settled at the outset
(`Session.batchVerdicts`), for each request a completion or none: none if the helper panics.
-/

namespace BatchStringify

namespace Debuggee

variable {d d' : Debuggee} {reply : List Value → HandlerReply}

/-- Whether the batch helper, if there is one, replies to the elements alone and never with a string that was
there before. -/
structure AnswersBy (d : Debuggee) (reply : List Value → HandlerReply) : Prop where
  handler : ∀ handler, d.handler = some handler → ∀ n elements, handler n elements = reply elements
  new : ∀ elements v, reply elements ≠ .value v

/-- A handler that answers by the values alone goes on doing so. -/
theorem SameSetup.answersBy (h : d.SameSetup d') (answers : d.AnswersBy reply) :
    d'.AnswersBy reply :=
  ⟨fun handler hh => answers.handler handler (h.handler ▸ hh), answers.new⟩

theorem AnswersBy.reply?_eq (h : d.AnswersBy reply) (elements : List Value) :
    d.reply? elements = d.handler.map fun _ => reply elements := by
  unfold reply?
  cases hh : d.handler with
  | none => rfl
  | some handler => exact congrArg some (h.handler handler hh _ elements)

theorem AnswersBy.reply?_ne_value (h : d.AnswersBy reply) (elements : List Value) (v : Value) :
    d.reply? elements ≠ some (.value v) := by
  rw [h.reply?_eq]
  cases d.handler with
  | none => simp
  | some handler => exact fun hv => h.new elements v (Option.some.inj hv)

/-- A static call with one array panics exactly if it is not set to fail and the helper panics over the
elements. -/
theorem invokeStatic_eq_panic_iff (thread : ThreadId) (owner : ClassHandle) (method : MethodId)
    {array : ObjectId} {elements : List Value} {payload : Panic}
    (harray : d.arrays.find? array = some elements) :
    (d.invokeStatic thread owner method [.object Value.arrayTag array]).1 = .error payload ↔
      d.works .invokeStatic = true ∧ d.reply? elements = some (.panic payload) := by
  have harg : arrayArgument? [.object Value.arrayTag array] = some array := by
    simp [arrayArgument?]
  rw [works_iff]
  unfold invokeStatic reply?
  dsimp only [noted]
  rw [harg]
  dsimp only
  rw [harray]
  cases d.failures.find? .invokeStatic with
  | some error => simp
  | none =>
    cases d.handler with
    | none => simp
    | some handler =>
      dsimp only [Option.map_some]
      cases handler d.invocations elements <;> simp [settle]

end Debuggee

namespace Attempt

variable {settings : DebuggerSettings} {helper : Helper} {context context' : Context}
  {values : List Value} {link link' : Link}

/-- An attempt goes the way of the helper that is asked if that panics. -/
theorem Asked.evaluate_eq_panic {thread : ThreadId} {array : ObjectId} {stored l : Link}
    {payload : Panic} (asked : Asked settings context values link thread array stored)
    (h : stored.invokeStatic thread helper.owner helper.method [.object Value.arrayTag array] =
      (.error payload, l)) :
    (evaluate settings helper context values).run.run.run link = (.error payload, l) := by
  obtain ⟨ht, hf, hn, hs⟩ := asked
  rename_i elements found created
  unfold evaluate
  rw [ht]
  simp only [bind_eq_panic_iff, ask_ne_panic, false_or, ask_eq_ok_iff, invoke_eq_panic_iff,
    replyText_ne_panic]
  exact ⟨elements, found, hf, array, created, hn, (), stored, hs, .inl h⟩

/-- An attempt panics if it comes to ask the handler and the handler panics. -/
theorem exists_panic_iff (objects : ∀ v ∈ values, v.objectId?.isSome) {payload : Panic} :
    (∃ l, (evaluate settings helper context values).run.run.run link = (.error payload, l)) ↔
      (context.scope.thread.isSome ∧ link.debuggee.canAsk settings = true) ∧
        link.debuggee.works .invokeStatic = true ∧
          link.debuggee.reply? values = some (.panic payload) := by
  have hcall : ∀ {thread array stored}, Asked settings context values link thread array stored →
      ((stored.invokeStatic thread helper.owner helper.method
        [.object Value.arrayTag array]).1 = .error payload ↔
        link.debuggee.works .invokeStatic = true ∧
          link.debuggee.reply? values = some (.panic payload)) := by
    intro thread array stored asked
    rw [← asked.reply?_eq, ← asked.grows.setup.works]
    exact Debuggee.invokeStatic_eq_panic_iff thread helper.owner helper.method asked.sameReplies.2
  rw [← isAsked_iff objects]
  constructor
  · rintro ⟨l, h⟩
    obtain ⟨thread, array, stored, asked, hinvoke⟩ := evaluate_eq_panic h
    exact ⟨⟨thread, array, stored, asked⟩, (hcall asked).1 (congrArg Prod.fst hinvoke)⟩
  · rintro ⟨⟨thread, array, stored, asked⟩, hpanics⟩
    exact ⟨_, asked.evaluate_eq_panic (Prod.ext ((hcall asked).2 hpanics) rfl)⟩

/-- What an attempt comes to, whatever fault it ends with if it does. -/
def comesTo (settings : DebuggerSettings) (helper : Helper) (context : Context)
    (values : List Value) (link : Link) : Except Panic (Option (List Reply.Entry)) :=
  ((evaluate settings helper context values).run.run.run link).1.map Except.toOption

theorem exists_run_eq_iff {result : Except Panic (Except BatchFault (List Reply.Entry))} :
    (∃ l, (evaluate settings helper context values).run.run.run link = (result, l)) ↔
      ((evaluate settings helper context values).run.run.run link).1 = result :=
  ⟨fun ⟨_, h⟩ => congrArg Prod.fst h, fun h => ⟨_, Prod.ext h rfl⟩⟩

/-- What an attempt comes to is a panic just if it panics. -/
theorem comesTo_eq_panic_iff {payload : Panic} :
    comesTo settings helper context values link = .error payload ↔
      ∃ l, (evaluate settings helper context values).run.run.run link = (.error payload, l) := by
  rw [exists_run_eq_iff, comesTo]
  rcases ((evaluate settings helper context values).run.run.run link).1 with p | r <;>
    simp [Except.map]

/-- It is a list of entries just if the attempt is answered with them. -/
theorem comesTo_eq_entries_iff {entries : List Reply.Entry} :
    comesTo settings helper context values link = .ok (some entries) ↔
      ∃ l, Answered settings helper context values link entries l := by
  simp only [← evaluate_eq_entries_iff]
  rw [exists_run_eq_iff, comesTo]
  rcases ((evaluate settings helper context values).run.run.run link).1 with p | fault | e <;>
    simp [Except.map, Except.toOption]

/-- What an attempt on objects comes to is the same whenever the debuggee is set up alike, from whichever
context with the same thread. -/
theorem comesTo_eq {reply : List Value → HandlerReply}
    (same : link.debuggee.SameSetup link'.debuggee) (answers : link.debuggee.AnswersBy reply)
    (numbered : link.debuggee.Numbered) (numbered' : link'.debuggee.Numbered)
    (thread : context'.scope.thread = context.scope.thread)
    (objects : ∀ v ∈ values, v.objectId?.isSome) :
    comesTo settings helper context' values link' = comesTo settings helper context values link := by
  have hanswers := same.answersBy answers
  have hreply : link'.debuggee.reply? values = link.debuggee.reply? values := by
    rw [hanswers.reply?_eq, answers.reply?_eq, same.handler]
  have hpanic : ∀ payload, comesTo settings helper context' values link' = .error payload ↔
      comesTo settings helper context values link = .error payload := by
    intro payload
    rw [comesTo_eq_panic_iff, comesTo_eq_panic_iff, exists_panic_iff objects,
      exists_panic_iff objects, thread, same.canAsk, same.works, hreply]
  have hentries : ∀ entries, comesTo settings helper context' values link' = .ok (some entries) ↔
      comesTo settings helper context values link = .ok (some entries) := by
    intro entries
    rw [comesTo_eq_entries_iff, comesTo_eq_entries_iff,
      exists_answered_iff objects numbered' (hanswers.reply?_ne_value values),
      exists_answered_iff objects numbered (answers.reply?_ne_value values), thread, same.canAsk,
      same.canRead, hreply]
  generalize comesTo settings helper context' values link' = result' at hpanic hentries ⊢
  generalize comesTo settings helper context values link = result at hpanic hentries ⊢
  rcases result with payload | _ | entries
  · exact (hpanic payload).2 rfl
  · rcases result' with payload | _ | entries
    · exact ((hpanic payload).1 rfl).symm
    · rfl
    · exact ((hentries entries).1 rfl).symm
  · exact (hentries entries).2 rfl

/-- Without a thread there is no attempt. -/
theorem comesTo_of_threadless (h : context.scope.thread = none) :
    comesTo settings helper context values link = .ok none := by
  unfold comesTo evaluate
  rw [h]
  rfl

end Attempt

namespace Session

/-- What a value comes to on its own, in a scope and with what `toString` gives in a session. -/
def aloneVerdict (o : Session) (scope : Scope) (v : Value) : Completion :=
  .ofOutcome (v.outcomeAlone o.link.debuggee.displays scope.thread)

/-- What the values of a batch come to if the session asks its helper about them: none of them to anything if
the helper panics. -/
def batchVerdicts (o : Session) (scope : Scope) (values : List Value) : List (Option Completion) :=
  match o.found.helper? with
  | none => values.map fun v => some (o.aloneVerdict scope v)
  | some helper =>
    match Attempt.comesTo o.settings helper ⟨scope, none, o.connection⟩ values o.link with
    | .error _ => values.map fun _ => none
    | .ok (some entries) => entries.map fun entry => some (.ofEntry entry)
    | .ok none => values.map fun v => some (o.aloneVerdict scope v)

/-- A request together with its completion, if it gets one. -/
def given (due : Request → Option Completion) (r : Request) : Option (Request × Completion) :=
  (due r).map (r, ·)

variable {o s : Session} {scope : Scope} {values : List Value} {requests : List Request}

/-- A batch brings a verdict for each of its values. -/
theorem length_batchVerdicts (o : Session) (scope : Scope) (values : List Value) :
    (o.batchVerdicts scope values).length = values.length := by
  unfold batchVerdicts
  cases o.found.helper? with
  | none => simp
  | some helper =>
    dsimp only
    rcases hc : Attempt.comesTo o.settings helper ⟨scope, none, o.connection⟩ values o.link with
      payload | _ | entries
    · simp
    · simp
    · obtain ⟨l, answered⟩ := Attempt.comesTo_eq_entries_iff.1 hc
      simp [answered.length_eq]

/-- Without a thread each value comes to what it comes to alone. -/
theorem batchVerdicts_of_threadless (h : scope.thread = none) (values : List Value) :
    o.batchVerdicts scope values = values.map fun v => some (o.aloneVerdict scope v) := by
  unfold batchVerdicts
  cases o.found.helper? with
  | none => rfl
  | some helper =>
    have hnone : Attempt.comesTo o.settings helper ⟨scope, none, o.connection⟩ values o.link =
        .ok none := Attempt.comesTo_of_threadless h
    dsimp only
    rw [hnone]

/-- Requests that are due what they come to alone are given just that. -/
theorem filterMap_given_alone {due : Request → Option Completion}
    (scopes : ∀ r ∈ requests, r.context.scope = scope)
    (h : requests.map due = requests.map fun r => some (o.aloneVerdict scope r.value)) :
    requests.filterMap (given due) = requests.map (Request.alone o.link.debuggee.displays) := by
  rw [← List.filterMap_eq_map]
  refine List.filterMap_congr fun r hr => ?_
  have hr' := List.map_inj_left.1 h r hr
  rw [given, hr', ← scopes r hr]
  rfl

/-- Requests that are due the entries of a reply are given these. -/
theorem filterMap_given_entries {due : Request → Option Completion} {entries : List Reply.Entry}
    (h : requests.map due = entries.map fun entry => some (.ofEntry entry)) :
    requests.filterMap (given due) = List.zipWith Request.answered requests entries := by
  induction requests generalizing entries with
  | nil => simp
  | cons r rest ih =>
    cases entries with
    | nil => cases h
    | cons entry others =>
      obtain ⟨hfirst, hrest⟩ := List.cons_eq_cons.1 h
      have hgiven : given due r = some (r.answered entry) := by
        rw [given, hfirst]
        rfl
      rw [List.filterMap_cons_some hgiven, ih hrest]
      rfl

/-- A batch of objects whose sinks do not panic is given what it comes to at the outset, whatever was
evaluated before it. -/
theorem completions_evaluateAll {reply : List Value → HandlerReply}
    (answers : o.link.debuggee.AnswersBy reply) (numbered : o.link.debuggee.Numbered)
    (grounded : Grounded o s) (gathered : o.gathers = true ∧ s.probe = o.found) {context : Context}
    (objects : ∀ r ∈ requests, r.context.scope = context.scope ∧ r.value.objectId?.isSome)
    (sinks : ∀ r ∈ requests, r.sink.panic = none) {due : Request → Option Completion}
    (hdue : requests.map due = o.batchVerdicts context.scope (requests.map (·.value))) :
    ((evaluateAll context requests).run.run s).2.completions =
      s.completions ++ requests.filterMap (given due) := by
  have hscopes : ∀ r ∈ requests, r.context.scope = context.scope := fun r hr => (objects r hr).1
  have hvalues : ∀ v ∈ requests.map (·.value), v.objectId?.isSome := by
    intro v hv
    obtain ⟨r, hr, rfl⟩ := List.mem_map.1 hv
    exact (objects r hr).2
  obtain ⟨helper, hhelper⟩ : ∃ helper, o.found.helper? = some helper :=
    Option.isSome_iff_exists.1 (Bool.and_eq_true_iff.1 gathered.1).2
  have hcomes : Attempt.comesTo s.settings helper context (requests.map (·.value)) s.link =
      Attempt.comesTo o.settings helper ⟨context.scope, none, o.connection⟩
        (requests.map (·.value)) o.link := by
    rw [grounded.settings]
    exact Attempt.comesTo_eq grounded.setup answers numbered grounded.numbered rfl hvalues
  have hgrows := Attempt.evaluate_grows s.settings helper context (requests.map (·.value)) s.link
  have hhelper' := gathered.2 ▸ hhelper
  rw [batchVerdicts, hhelper] at hdue
  dsimp only at hdue
  rw [← hcomes, Attempt.comesTo] at hdue
  rw [run_evaluateAll, run_evaluateTogether, hhelper']
  dsimp only
  rcases hr : (Attempt.evaluate s.settings helper context (requests.map (·.value))).run.run.run
    s.link with ⟨payload | fault | entries, link⟩ <;> rw [hr] at hgrows hdue <;>
    dsimp only [Except.map, Except.toOption] at hdue
  · -- the helper panicked
    have hnone : requests.filterMap (given due) = [] := by
      rw [List.map_map, List.map_inj_left] at hdue
      refine List.filterMap_eq_nil_iff.2 fun r hr => ?_
      rw [given, hdue r hr]
      rfl
    rw [run_evaluateBatch, run_attemptBatch hr, hnone, List.append_nil]
    exact congrArg Ledger.completed (ledger_withLink s hgrows)
  · -- one by one after an attempt that left everything as it was
    have hledger : ((s.withLink link).note
        (.batchFailed context.scope.id requests.length fault)).ledger = s.ledger :=
      (ledger_note _ rfl).trans (ledger_withLink s hgrows)
    obtain ⟨s', hrun, hcompleted⟩ := individually_alone sinks
      ((s.withLink link).note (.batchFailed context.scope.id requests.length fault))
    have hdisplays : link.debuggee.displays = o.link.debuggee.displays :=
      (grounded.setup.trans hgrows.setup).displays
    rw [List.map_map] at hdue
    rw [run_evaluateBatch, run_attemptBatch hr]
    dsimp only
    rw [hrun, filterMap_given_alone hscopes hdue, ← hdisplays]
    rw [hledger] at hcompleted
    exact congrArg Ledger.completed hcompleted
  · -- each request has the entry at its place
    obtain ⟨s', hrun, hcompleted⟩ :=
      evaluateBatch_of_answered (Attempt.evaluate_eq_entries_iff.1 hr) sinks
    rw [hrun, filterMap_given_entries hdue]
    exact congrArg Ledger.completed hcompleted

end Session

end BatchStringify
