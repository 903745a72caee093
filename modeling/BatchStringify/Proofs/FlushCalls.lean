import BatchStringify.Proofs.BatchDelivery
import BatchStringify.Proofs.Calm.Turns
import BatchStringify.Proofs.Pins
import BatchStringify.Proofs.Protocol
import BatchStringify.Proofs.TurnCalls

/-!
# The calls of a flush

A flush talks to the debuggee in two parts. First comes the attempt, if the helper is known and the scope has a
thread, and it keeps to the protocol of attempts up to the first call that fails. Then, unless the text that was read
has an entry for each request, `toString` is called for each of them in their order. There is nothing else that
a flush calls (`flush_calls`).
-/

namespace BatchStringify

/-- For a given debuggee and given elements, it can be checked that the helper does not panic. -/
theorem Debuggee.returns_of_isPanic {d : Debuggee} {elements : List Value}
    (h : (d.reply? elements).any HandlerReply.isPanic = false) (payload : Panic) :
    d.reply? elements ≠ some (.panic payload) := by
  intro hpanic
  rw [hpanic] at h
  cases h

namespace Attempt

/-- Whether a text was read that has an entry for each of so many values. -/
def Answers (expected : Nat) (text : Option String) : Prop :=
  ∃ content entries, text = some content ∧ Reply.decode (Latin1.encode content) = .ok entries ∧
    entries.length = expected

/-- A text is an answer if its entries are accepted. -/
theorem answers_iff {expected : Nat} {text : Option String} :
    Answers expected text ↔
      ∃ entries, (text.bind fun text => (entriesOf expected text).toOption) = some entries := by
  constructor
  · rintro ⟨content, entries, rfl, hdecode, hlength⟩
    refine ⟨entries, ?_⟩
    rw [Option.bind_some, entriesOf_eq_ok_iff.2 ⟨hdecode, hlength⟩]
    rfl
  · rintro ⟨entries, h⟩
    obtain ⟨content, htext, haccepted⟩ := Option.bind_eq_some_iff.1 h
    cases he : entriesOf expected content with
    | error fault =>
      rw [he] at haccepted
      cases haccepted
    | ok found =>
      obtain ⟨hdecode, hlength⟩ := entriesOf_eq_ok_iff.1 he
      exact ⟨content, found, htext, hdecode, hlength⟩

end Attempt

namespace Session

/-- Whether these are the exchanges of the attempt of a flush, with the text that was read, if one was: those of the
protocol if the helper is known and the scope has a thread, and otherwise none. -/
def Inquires (s : Session) (context : Context) (values : List Value)
    (attempt : List (Call × Outcome)) (text : Option String) : Prop :=
  match s.probe.helper?, context.scope.thread with
  | some helper, some thread =>
    Attempt.Leads ⟨s.settings, helper, thread, context.loader, values⟩ .begun attempt (.over text)
  | _, _ => attempt = [] ∧ text = none

variable {s : Session} {context : Context} {requests : List Request}

/-! ## Evaluations -/

/-- An attempt with the known helper keeps to the protocol, and it comes back with entries if the text that it read
has one for each value. -/
theorem inquires_attempt {helper : Helper} (known : s.probe.helper? = some helper)
    {values : List Value} {result : Except BatchFault (List Reply.Entry)} {link : Link}
    (h : (Attempt.evaluate s.settings helper context values).run.run.run s.link =
      (.ok result, link)) :
    ∃ attempt text, link.exchanges = s.link.exchanges ++ attempt ∧
      s.Inquires context values attempt text ∧
      (Attempt.Answers values.length text ↔ ∃ entries, result = .ok entries) := by
  cases ht : context.scope.thread with
  | none =>
    unfold Attempt.evaluate at h
    rw [ht] at h
    obtain ⟨hresult, rfl⟩ := Prod.mk.inj h
    obtain rfl := Except.ok.inj hresult
    refine ⟨[], none, (List.append_nil _).symm, by simp [Inquires, known, ht], ?_⟩
    simp [Attempt.Answers]
  | some thread =>
    obtain ⟨attempt, last, hmore, hleads, text, rfl, hanswer⟩ := Attempt.evaluate_talks
      ⟨s.settings, helper, thread, context.loader, values⟩ ht rfl s.link
    rw [h] at hmore hanswer
    refine ⟨attempt, text, hmore, by simpa [Inquires, known, ht] using hleads, ?_⟩
    rw [Attempt.answers_iff, ← hanswer]
    cases result <;> simp [Attempt.returned?]

/-- Requests whose sinks do not panic take their calls of `toString` one by one, and no other calls. -/
theorem exchanges_individually (sinks : ∀ request ∈ requests, request.sink.panic = none)
    (s : Session) :
    ∃ alone, ((requests.forM evaluateIndividually).run.run s).2.exchanges = s.exchanges ++ alone ∧
      alone.map (·.1) = requests.filterMap Request.displayCall? := by
  obtain ⟨s', hrun, -⟩ := individually_alone sinks s
  obtain ⟨alone, halone, hkind⟩ := makes_individually requests s
  have hdisplays := displays_individually hrun
  rw [hrun] at halone ⊢
  rw [callsOf_of_exchanges halone, List.append_cancel_left_eq] at hdisplays
  refine ⟨alone, halone, ?_⟩
  rwa [List.filter_eq_self.2] at hdisplays
  intro call hcall
  obtain ⟨x, hx, rfl⟩ := List.mem_map.1 hcall
  exact hkind x hx

/-- The calls of requests that are evaluated together: those of the attempt, and then, unless it was answered, those
of `toString`. -/
theorem exchanges_evaluateAll (context : Context)
    (returns : ∀ payload, s.link.debuggee.reply? (requests.map (·.value)) ≠ some (.panic payload))
    (sinks : ∀ request ∈ requests, request.sink.panic = none) :
    ∃ attempt alone text,
      ((evaluateAll context requests).run.run s).2.exchanges = s.exchanges ++ (attempt ++ alone) ∧
      s.Inquires context (requests.map (·.value)) attempt text ∧
      (Attempt.Answers requests.length text → alone = []) ∧
      (¬Attempt.Answers requests.length text →
        alone.map (·.1) = requests.filterMap Request.displayCall?) := by
  rw [run_evaluateAll, run_evaluateTogether]
  cases hp : s.probe.helper? with
  | none =>
    obtain ⟨alone, halone, hcalls⟩ := exchanges_individually sinks s
    refine ⟨[], alone, none, halone, by simp [Inquires, hp], ?_, fun _ => hcalls⟩
    rintro ⟨_, _, h, -⟩
    cases h
  | some helper =>
    obtain ⟨result, link, hr⟩ : ∃ result link, (Attempt.evaluate s.settings helper context
        (requests.map (·.value))).run.run.run s.link = (.ok result, link) :=
      Attempt.evaluate_returns helper fun _ => returns
    obtain ⟨attempt, text, hattempt, hinquires, hanswers⟩ := inquires_attempt hp hr
    rw [List.length_map] at hanswers
    dsimp only
    rw [run_evaluateBatch, run_attemptBatch hr]
    cases result with
    | error fault =>
      obtain ⟨alone, halone, hcalls⟩ := exchanges_individually sinks
        ((s.withLink link).note (.batchFailed context.scope.id requests.length fault))
      rw [exchanges_note] at halone
      refine ⟨attempt, alone, text, ?_, hinquires, fun h => ?_, fun _ => hcalls⟩
      · rw [← List.append_assoc]
        exact halone.trans (congrArg (· ++ alone) hattempt)
      · obtain ⟨entries, he⟩ := hanswers.1 h
        cases he
    | ok entries =>
      refine ⟨attempt, [], text, ?_, hinquires, fun _ => rfl, fun h => ?_⟩
      · have hdeliver := exchanges_deliver requests entries (s.withLink link)
        rw [List.append_nil]
        dsimp only
        rcases hd : (deliver requests entries).run.run (s.withLink link) with ⟨payload | _, s'⟩ <;>
          rw [hd] at hdeliver <;> exact hdeliver.trans hattempt
      · exact absurd (hanswers.2 ⟨entries, rfl⟩) h

/-! ## Turns -/

/-- The turn of a flush of a valid scope evaluates the batch that waits, which was taken before. -/
theorem after_flush {rest : List Task} (waiting : s.queue.waiting = .flush context :: rest)
    (pending : s.pending.find? context.scope.id = some requests) (nonempty : requests ≠ [])
    (valid : s.suspensions.isValid context.scope = true) :
    s.after .turn = contain false (evaluateAll context requests)
      ((s.taken rest).takePending context.scope.id).2 := by
  have hcancelled : s.isCancelled (.flush context) = false := by
    simp [isCancelled, Task.scope?, valid]
  have htaken : ((s.taken rest).takePending context.scope.id).1 = requests := by
    show (s.pending.find? context.scope.id).getD [] = requests
    rw [pending]
    rfl
  have hflush := run_flush context (s.taken rest)
  rw [htaken, if_neg (by simpa using nonempty)] at hflush
  rw [after_turn_eq_contain waiting, hcancelled]
  exact contain_congr false hflush

/-- A batch that waits is one of objects of the scope of its flush, in the order in which they were accepted, and each
object has a call of `toString` if the scope has a thread. -/
theorem accepted_of_flush {rest : List Task} (sound : s.ledger.Sound) (gathered : s.ledger.Gathered)
    (waiting : s.queue.waiting = .flush context :: rest)
    (pending : s.pending.find? context.scope.id = some requests) :
    requests ≠ [] ∧ requests.Sublist s.accepted ∧ ∀ request ∈ requests, ∃ id,
      request.value.objectId? = some id ∧
        request.displayCall? = context.scope.thread.map (.invokeToString · id) := by
  have hnext : s.next = requests := by
    rw [next_of_cons waiting, carried, pending]
    rfl
  have hbatch := gathered context.scope.id
  rw [show s.ledger.pending = s.pending from rfl, pending] at hbatch
  refine ⟨(sound.batch pending).1, hbatch, fun request hr => ?_⟩
  rw [← hnext] at hr
  obtain ⟨hscope, hobject⟩ := objects_of_flush sound waiting request hr
  obtain ⟨id, hid⟩ := Option.isSome_iff_exists.1 hobject
  refine ⟨id, hid, ?_⟩
  rw [Request.displayCall?, hid, hscope]
  cases context.scope.thread <;> rfl

theorem sound_playUnder (run : List ((Debuggee → Debuggee) × Event)) (h : s.ledger.Sound) :
    (s.playUnder run).ledger.Sound := by
  induction run generalizing s with
  | nil => exact h
  | cons first rest ih =>
    obtain ⟨change, event⟩ := first
    have hmeddled : (s.meddled change).ledger = s.ledger := rfl
    exact ih (sound_after event (by rwa [hmeddled]))

variable (debuggee : Debuggee) (settings : DebuggerSettings) (connection : Connection)

/-- Whatever the debuggee has become: the calls of a flush of a valid scope, if neither the helper nor a sink panics,
are those of the attempt, which keeps to its protocol up to the first call that fails, and then, unless the text
that was read has an entry for each request of the batch, one call of `toString` for each of them, in the order
in which they were accepted, if the scope has a thread. So if nobody else pins objects, nothing is pinned after any
number of events that was not pinned in the beginning, whatever failed or panicked. -/
theorem flush_calls :
    (∀ (run : List ((Debuggee → Debuggee) × Event)) (change : Debuggee → Debuggee),
      let s := ((start debuggee settings connection).playUnder run).meddled change
      ∀ context rest requests, s.queue.waiting = .flush context :: rest →
        s.pending.find? context.scope.id = some requests →
        s.suspensions.isValid context.scope = true →
        (∀ payload, s.link.debuggee.reply? (requests.map (·.value)) ≠ some (.panic payload)) →
        (∀ request ∈ requests, request.sink.panic = none) →
        requests ≠ [] ∧ requests.Sublist s.accepted ∧
        (∀ request ∈ requests, ∃ id, request.value.objectId? = some id ∧
          request.displayCall? = context.scope.thread.map (.invokeToString · id)) ∧
        ∃ attempt alone text, s.exchangesSince (s.after .turn) = attempt ++ alone ∧
          s.Inquires context (requests.map (·.value)) attempt text ∧
          (Attempt.Answers requests.length text → alone = []) ∧
          (¬Attempt.Answers requests.length text →
            alone.map (·.1) = requests.filterMap Request.displayCall?)) ∧
    ∀ events, (∀ p ∈ (start debuggee settings connection).steps events, p.2.pins = false) →
      ∀ id, ((start debuggee settings connection).play events).link.debuggee.isPinned id = true →
        debuggee.isPinned id = true := by
  constructor
  · intro run change s context rest requests waiting pending valid returns sinks
    have hsound : s.ledger.Sound := sound_playUnder run (sound_start debuggee settings connection)
    have hgathered : s.ledger.Gathered := gathered_playUnder run fun _ => List.nil_sublist _
    obtain ⟨nonempty, hsublist, hobjects⟩ := accepted_of_flush hsound hgathered waiting pending
    obtain ⟨attempt, alone, text, hcalls, hinquires, hanswered, hleft⟩ :=
      exchanges_evaluateAll (s := ((s.taken rest).takePending context.scope.id).2) context returns
        sinks
    refine ⟨nonempty, hsublist, hobjects, attempt, alone, text, ?_, hinquires, hanswered, hleft⟩
    rw [after_flush waiting pending nonempty valid]
    exact exchangesSince_eq ((exchanges_contain _ _ _).trans hcalls)
  · exact fun events own id => pinned_play own

/-- Two objects of one stop, after which strings cannot be read any more. -/
def unreadableReply : List Event :=
  [.step (.suspend 0 (some 1)),
    .step (.submit ⟨"a", .object 76 2, ⟨0, none, none⟩, ⟨[], [], [], none⟩⟩),
    .step (.submit ⟨"b", .object 76 3, ⟨0, none, none⟩, ⟨[], [], [], none⟩⟩),
    .step (.fail .stringValue (.evaluation "gone"))]

/-- The same with the turn of their flush. -/
def unreadableReplyFlushed : List Event := unreadableReply ++ [.turn]

/-- In this run only the session pins objects. -/
theorem own_unreadableReplyFlushed :
    ∀ p ∈ (start .withHelper {} .localProcess).steps unreadableReplyFlushed, p.2.pins = false := by
  have hall : ((start .withHelper {} .localProcess).steps unreadableReplyFlushed).all
      (!·.2.pins) = true := by decide +kernel
  intro p hp
  rw [← Bool.not_eq_true']
  exact List.all_eq_true.1 hall p hp

/-- The reply that cannot be read is let go, and then `toString` is called for both objects. -/
theorem flush_calls_unreadableReply :
    (let s := ((start .withHelper {} .localProcess).playUnder
      (unreadableReply.map (id, ·))).meddled id;
      (∃ attempt alone text, s.exchangesSince (s.after .turn) = attempt ++ alone ∧
        s.Inquires ⟨⟨1, some 1, 0⟩, none, .localProcess⟩ [.object 76 2, .object 76 3]
          attempt text ∧
        (¬Attempt.Answers 2 text →
          alone.map (·.1) = [.invokeToString 1 2, .invokeToString 1 3])) ∧
      (s.exchangesSince (s.after .turn)).map (·.1) =
        [.findClass 1 "java.lang.Object[]" none, .newArray ⟨10001, "java.lang.Object[]"⟩ 2,
          .setArrayValues 10004 [.object 76 2, .object 76 3],
          .invokeStatic 1 ⟨10002, "com.intellij.rt.debugger.BatchEvaluatorServer"⟩ 10003
            [.object Value.arrayTag 10004],
          .disableCollection 10005, .stringValue 10005, .enableCollection 10005,
          .invokeToString 1 2, .invokeToString 1 3]) ∧
    ∀ id, ((start .withHelper {} .localProcess).play
      unreadableReplyFlushed).link.debuggee.isPinned id = false := by
  obtain ⟨hcalls, hpins⟩ := flush_calls .withHelper {} .localProcess
  refine ⟨⟨?_, by decide +kernel⟩, fun id => ?_⟩
  · obtain ⟨-, -, -, attempt, alone, text, hmade, hinquires, -, hleft⟩ :=
      hcalls (unreadableReply.map (id, ·)) id ⟨⟨1, some 1, 0⟩, none, .localProcess⟩ [] _ rfl rfl
        (by decide +kernel) (Debuggee.returns_of_isPanic (by decide +kernel)) (by decide +kernel)
    exact ⟨attempt, alone, text, hmade, hinquires, hleft⟩
  · have hnone : Debuggee.withHelper.isPinned id = false := rfl
    rw [← Bool.not_eq_true] at hnone ⊢
    exact fun hpinned => hnone (hpins unreadableReplyFlushed own_unreadableReplyFlushed id hpinned)

end Session

end BatchStringify
