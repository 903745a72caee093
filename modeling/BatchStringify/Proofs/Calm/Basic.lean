import BatchStringify.Proofs.BatchDelivery
import BatchStringify.Proofs.Evaluation
import BatchStringify.Proofs.Ledger.Waiting

/-!
# Calm sessions

A session is calm if its queue can be sent to and carries nothing but requests whose sinks only take
the text. What the requests of a calm session come to depends on its outlook alone: which scopes are
valid and what `toString` gives. Evaluating such requests changes nothing but the link, and there it
leaves the setup of the debuggee as it is.
-/

namespace BatchStringify

/-- Whether a sink takes the text and does nothing besides. -/
def Sink.isPlain : Sink → Bool
  | ⟨[], [], [], none⟩ => true
  | _ => false

theorem Sink.eq_of_isPlain {sink : Sink} (h : sink.isPlain = true) :
    sink = ⟨[], [], [], none⟩ := by
  unfold isPlain at h
  split at h
  · rfl
  · cases h

theorem Sink.panic_of_isPlain {sink : Sink} (h : sink.isPlain = true) : sink.panic = none := by
  rw [eq_of_isPlain h]

/-- Whether a sink does nothing besides taking the text, except that it may panic. -/
def Sink.isMild : Sink → Bool
  | ⟨[], [], [], _⟩ => true
  | _ => false

theorem Sink.isMild_of_isPlain {sink : Sink} (h : sink.isPlain = true) : sink.isMild = true := by
  rw [eq_of_isPlain h]
  rfl

/-- The part of a session that its requests are made from and that decides what they come to. -/
structure Outlook where
  suspensions : Suspensions
  connection : Connection
  made : Nat
  displays : Table ObjectId (Except RemoteError String)

/-- The completions that requests have coming to them if all of them are served now: those of valid
scopes get what is due to them. -/
def Outlook.settle (o : Outlook) (due : Request → Request × Completion) (requests : List Request) :
    List (Request × Completion) :=
  (requests.filter fun r => o.suspensions.isValid r.context.scope).map due

/-- The completions of some requests and others are those of both. -/
theorem Outlook.settle_append (o : Outlook) (due : Request → Request × Completion)
    (first second : List Request) :
    o.settle due (first ++ second) = o.settle due first ++ o.settle due second := by
  rw [settle, List.filter_append, List.map_append]
  rfl

/-- The order in which requests are served is that of their completions. -/
theorem Outlook.settle_perm (o : Outlook) (due : Request → Request × Completion)
    {first second : List Request} (h : first.Perm second) :
    (o.settle due first).Perm (o.settle due second) := (h.filter _).map _

namespace Session

/-- The outlook of a session. -/
def outlook (s : Session) : Outlook :=
  ⟨s.suspensions, s.connection, s.made, s.link.debuggee.displays⟩

/-- Whether a session can be sent to and carries nothing but requests. -/
structure Ready (s : Session) : Prop where
  isOpen : s.queue.isOpen = true
  hasSender : s.queue.hasSender = true
  sound : s.ledger.Sound
  tasks : ∀ task ∈ s.queue.waiting, task.isCommand = false

/-- Whether a session is ready and carries only requests with plain sinks. -/
structure Calm (s : Session) : Prop extends Ready s where
  sinks : ∀ r ∈ s.ledger.waiting, r.sink.isPlain = true

/-- Whether the helper is faithful to the batch of the next task, if that task comes to ask it. -/
def FaithfulAt (s : Session) : Prop :=
  ∀ context, s.queue.waiting.head? = some (.flush context) →
    s.suspensions.isValid context.scope = true → s.probe.helper?.isSome →
      Attempt.IsAsked s.settings context (s.next.map (·.value)) s.link →
        s.link.debuggee.FaithfulTo (s.next.map (·.value))

/-! ## Evaluation of plain requests -/

/-- Whether nothing but the link has changed, and there nothing of the setup of the debuggee. -/
def OnlyLink (s s' : Session) : Prop :=
  ∃ link, s' = s.withLink link ∧ s.link.debuggee.SameSetup link.debuggee

instance : Std.Refl OnlyLink := ⟨fun s => ⟨s.link, rfl, .refl _⟩⟩

instance : IsTrans Session OnlyLink where
  trans := by
    rintro s s' s'' ⟨link, rfl, h⟩ ⟨link', rfl, h'⟩
    exact ⟨link', rfl, h.trans h'⟩

/-- The link has no part in what requests come to, as long as the setup of the debuggee stays. -/
theorem OnlyLink.outlook {s s' : Session} (h : OnlyLink s s') : s'.outlook = s.outlook := by
  obtain ⟨link, rfl, hsetup⟩ := h
  show Outlook.mk _ _ _ link.debuggee.displays = _
  rw [hsetup.displays]
  rfl

variable {requests : List Request}

/-- Completing a request with a mild sink only notes it, also if the sink panics. -/
theorem onlyLink_complete {request : Request} (h : request.sink.isMild = true)
    (completion : Completion) : Along OnlyLink (complete request completion) := by
  intro s
  have hsink : afterSink request.sink (s.record (.completed request completion)) =
      s.record (.completed request completion) := by
    unfold Sink.isMild at h
    split at h
    · rename_i hr
      rw [hr]
      rfl
    · cases h
  rw [run_complete, hsink]
  exact ⟨s.link.record (.completed request completion), rfl, .refl _⟩

theorem onlyLink_withLink {kind : Call → Prop} {s : Session} {link : Link}
    (h : s.link.Grows kind link) : OnlyLink s (s.withLink link) := ⟨link, rfl, h.setup⟩

/-- So evaluating it on its own changes only the link. -/
theorem onlyLink_evaluateIndividually {request : Request} (h : request.sink.isMild = true) :
    Along OnlyLink (evaluateIndividually request) :=
  along_evaluateIndividually onlyLink_withLink (onlyLink_complete h)

/-- The same holds for several requests one by one. -/
theorem onlyLink_individually (h : ∀ r ∈ requests, r.sink.isPlain = true) :
    Along OnlyLink (requests.forM evaluateIndividually) :=
  .of_forM fun r hr => onlyLink_evaluateIndividually (Sink.isMild_of_isPlain (h r hr))

/-- The same holds for a batch attempt. -/
theorem onlyLink_evaluateBatch (h : ∀ r ∈ requests, r.sink.isPlain = true) (helper : Helper)
    (context : Context) : Along OnlyLink (evaluateBatch helper context requests) := fun _ =>
  along_evaluateBatch onlyLink_withLink
    (fun r hr => onlyLink_complete (Sink.isMild_of_isPlain (h r hr))) context

/-- Whether a batch brings its requests what is due to them: the helper does not panic over it, and it
is due what an attempt answers or else what the requests come to alone. -/
structure BatchGives (due : Request → Request × Completion) (context : Context)
    (requests : List Request) (s : Session) : Prop where
  returns : s.probe.helper?.isSome →
    Attempt.IsAsked s.settings context (requests.map (·.value)) s.link →
      ∀ payload, s.link.debuggee.reply? (requests.map (·.value)) ≠ some (.panic payload)
  answered : ∀ helper entries link, s.probe.helper? = some helper →
    Attempt.Answered s.settings helper context (requests.map (·.value)) s.link entries link →
      List.zipWith Request.answered requests entries = requests.map due
  alone : (∀ helper, s.probe.helper? = some helper → ¬∃ entries link,
      Attempt.Answered s.settings helper context (requests.map (·.value)) s.link entries link) →
    requests.map (Request.alone s.link.debuggee.displays) = requests.map due

/-- A batch of objects of one scope comes to what its requests come to alone if the helper is faithful
whenever it is asked. -/
theorem batchGives_alone {context : Context} {s : Session}
    (objects : ∀ r ∈ requests, r.context.scope = context.scope ∧ r.value.objectId?.isSome)
    (faithful : s.probe.helper?.isSome →
      Attempt.IsAsked s.settings context (requests.map (·.value)) s.link →
        s.link.debuggee.FaithfulTo (requests.map (·.value))) :
    BatchGives (Request.alone s.link.debuggee.displays) context requests s where
  returns := fun known asked => (faithful known asked).returns
  answered := by
    intro helper entries link hhelper answered
    have known : s.probe.helper?.isSome := by
      rw [hhelper]
      rfl
    exact answered_eq_alone answered (faithful known answered.isAsked) objects
  alone := fun _ => rfl

/-- A flush of plain requests brings each of them what its batch gives, whether the helper answers or
they are evaluated one by one. -/
theorem flush_plain {due : Request → Request × Completion} {context : Context} {s s₀ : Session}
    (taken : s.takePending context.scope.id = (requests, s₀))
    (plain : ∀ r ∈ requests, r.sink.isPlain = true) (gives : BatchGives due context requests s) :
    ∃ s', (flush context).run.run s = (.ok (), s') ∧ OnlyLink s₀ s' ∧
      s'.ledger = s₀.ledger.complete (requests.map due) := by
  have sinks : ∀ r ∈ requests, r.sink.panic = none :=
    fun r hr => Sink.panic_of_isPlain (plain r hr)
  have hkeeps : s₀.link = s.link ∧ s₀.settings = s.settings := by
    obtain ⟨-, rfl⟩ := Prod.mk.inj taken
    exact ⟨rfl, rfl⟩
  obtain ⟨hlink, hsettings⟩ := hkeeps
  by_cases nonempty : requests = []
  · subst nonempty
    refine ⟨s₀, ?_, Std.Refl.refl s₀, s₀.ledger.complete_nil.symm⟩
    rw [run_flush, taken]
    rfl
  · have hflush := run_flush_of_taken taken nonempty
    cases hhelper : s.probe.helper? with
    | none =>
      -- one by one from the start
      rw [hhelper] at hflush
      obtain ⟨s', hrun, hl⟩ := individually_alone sinks s₀
      have honly := onlyLink_individually plain s₀
      rw [hrun] at honly
      rw [hlink, gives.alone fun helper hh => by rw [hhelper] at hh; cases hh] at hl
      exact ⟨s', hflush.trans hrun, honly, hl⟩
    | some helper =>
      rw [hhelper] at hflush
      dsimp only at hflush
      by_cases answered : ∃ entries link, Attempt.Answered s₀.settings helper context
          (requests.map (·.value)) s₀.link entries link
      · -- the entries say what is due
        obtain ⟨entries, link, answered⟩ := answered
        obtain ⟨s', hrun, hl⟩ := evaluateBatch_of_answered answered sinks
        have honly := onlyLink_evaluateBatch plain helper context s₀
        rw [hrun] at honly hflush
        rw [hlink, hsettings] at answered
        rw [gives.answered helper entries link hhelper answered] at hl
        exact ⟨s', hflush, honly, hl⟩
      · -- one by one after an attempt that left everything as it was
        obtain ⟨s', hrun, hl, hsetup⟩ := evaluateBatch_of_not_answered answered (by
          rw [hlink, hsettings]
          exact gives.returns (by rw [hhelper]; rfl))
        have honly := onlyLink_evaluateBatch plain helper context s₀
        obtain ⟨s'', hrest, hl'⟩ := individually_alone sinks s'
        have honly' := onlyLink_individually plain s'
        rw [hrest] at honly'
        rw [hrun] at honly hflush
        rw [hlink, hsettings] at answered
        have halone := gives.alone fun other hh => by
          rw [hhelper] at hh
          obtain rfl := Option.some.inj hh
          exact answered
        rw [hl, hsetup.displays, hlink, halone] at hl'
        exact ⟨s'', hflush.trans hrest, IsTrans.trans _ _ _ honly honly', hl'⟩

end Session

end BatchStringify
