import BatchStringify.Proofs.Calls
import BatchStringify.Proofs.Probing

/-!
# One look-up for each attachment

The probe is asked by submissions and by the embedder, from any scope and in any order, and it answers from
what it knows as soon as it knows anything. What a single question comes to is spelled out by `Inquiry`. Of
all the steps of a run only questions and the end of the debuggee change what is known, and nothing else
does (`Passes`), so between two ends of the debuggee the helper is looked for once at most, and what was
found out holds until the next one.
-/

namespace BatchStringify

/-! ## A question -/

/-- A search for the helper: the exchanges that are made and what is known afterwards. The method is looked
for only if the class was found. -/
inductive LookUp (settings : DebuggerSettings) (thread : ThreadId) (loader : Option ObjectId) :
    List (Call × Outcome) → Probe → Prop where
  | noClass (error : RemoteError) :
      LookUp settings thread loader
        [(.findClass thread settings.helperClass loader, .error error)] .unavailable
  | noAnswer (owner : ClassHandle) (error : RemoteError) :
      LookUp settings thread loader
        [(.findClass thread settings.helperClass loader, .owner owner),
          (.findMethod owner settings.helperMethod settings.helperSignature, .error error)]
        .unavailable
  | noMethod (owner : ClassHandle) :
      LookUp settings thread loader
        [(.findClass thread settings.helperClass loader, .owner owner),
          (.findMethod owner settings.helperMethod settings.helperSignature, .method none)]
        .unavailable
  | found (owner : ClassHandle) (method : MethodId) :
      LookUp settings thread loader
        [(.findClass thread settings.helperClass loader, .owner owner),
          (.findMethod owner settings.helperMethod settings.helperSignature, .method (some method))]
        (.available ⟨owner, method⟩)

/-- A question to the probe in a context: what is known before it, the exchanges that it makes and what is
known afterwards. -/
inductive Inquiry (settings : DebuggerSettings) (context : Context) :
    Probe → List (Call × Outcome) → Probe → Prop where
  | off {probe : Probe} (off : settings.batchEvaluation = false) :
      Inquiry settings context probe [] probe
  | known {probe : Probe} (known : probe ≠ .unknown) : Inquiry settings context probe [] probe
  | remote (on : settings.batchEvaluation = true) (remote : context.connection = .remote) :
      Inquiry settings context .unknown [] .unavailable
  | threadless (near : context.connection = .localProcess)
      (threadless : context.scope.thread = none) : Inquiry settings context .unknown [] .unknown
  | lookUp {thread : ThreadId} {made : List (Call × Outcome)} {probe : Probe}
      (on : settings.batchEvaluation = true) (near : context.connection = .localProcess)
      (thread_eq : context.scope.thread = some thread)
      (lookUp : LookUp settings thread context.loader made probe) :
      Inquiry settings context .unknown made probe

section Inquiry

variable {settings : DebuggerSettings} {context : Context} {probe probe' : Probe}
  {made : List (Call × Outcome)}

/-- After a search something is known, be it that there is no helper. -/
theorem LookUp.ne_unknown {thread : ThreadId} {loader : Option ObjectId}
    (h : LookUp settings thread loader made probe) : probe ≠ .unknown := by
  cases h <;> exact fun h => by cases h

/-- Exchanges are made only if nothing is known yet, and then something is known afterwards. -/
theorem Inquiry.of_made (h : Inquiry settings context probe made probe') (hmade : made ≠ []) :
    settings.batchEvaluation = true ∧ context.connection = .localProcess ∧
      context.scope.thread.isSome = true ∧ probe = .unknown ∧ probe' ≠ .unknown := by
  cases h with
  | lookUp on near thread_eq lookUp =>
    exact ⟨on, near, by rw [thread_eq]; rfl, rfl, lookUp.ne_unknown⟩
  | _ => exact absurd rfl hmade

/-- Once something is known, a question makes no exchange. -/
theorem Inquiry.of_known (h : Inquiry settings context probe made probe')
    (known : probe ≠ .unknown) : made = [] ∧ probe' = probe := by
  cases h with
  | off off => exact ⟨rfl, rfl⟩
  | known known => exact ⟨rfl, rfl⟩
  | _ => exact absurd rfl known

/-- With batches turned off a question leaves everything unknown. -/
theorem Inquiry.of_off (h : Inquiry settings context probe made probe')
    (off : settings.batchEvaluation = false) : probe' = probe := by
  cases h with
  | remote on remote => rw [off] at on; cases on
  | lookUp on near thread_eq lookUp => rw [off] at on; cases on
  | _ => rfl

/-- The helper is known after a question only if it was known before or the look-up found it. -/
theorem Inquiry.of_available {helper : Helper}
    (h : Inquiry settings context probe made (.available helper)) :
    probe = .available helper ∨ ∃ thread, made =
      [(.findClass thread settings.helperClass context.loader, .owner helper.owner),
        (.findMethod helper.owner settings.helperMethod settings.helperSignature,
          .method (some helper.method))] := by
  generalize hp : Probe.available helper = probe' at h
  cases h with
  | off off => exact .inl rfl
  | known known => exact .inl rfl
  | remote on remote => cases hp
  | threadless near threadless => cases hp
  | lookUp on near thread_eq lookUp =>
    cases lookUp with
    | found owner method =>
      obtain rfl := Probe.available.inj hp
      exact .inr ⟨_, rfl⟩
    | _ => cases hp

end Inquiry

namespace Session

variable (s : Session)

theorem exchanges_findClass (thread : ThreadId) (name : String) (loader : Option ObjectId) :
    (s.withLink (s.link.findClass thread name loader).2).exchanges = s.exchanges ++
      [(.findClass thread name loader, .of .owner (s.link.findClass thread name loader).1)] := by
  simp [exchanges, withLink, Link.findClass, Link.exchanged, Link.record, Entry.exchange?]

theorem exchanges_findMethod (owner : ClassHandle) (name signature : String) :
    (s.withLink (s.link.findMethod owner name signature).2).exchanges = s.exchanges ++
      [(.findMethod owner name signature,
        .of .method (s.link.findMethod owner name signature).1)] := by
  simp [exchanges, withLink, Link.findMethod, Link.exchanged, Link.record, Entry.exchange?]

/-- Looking for the helper is a search: the class first, then its method in each form of the class. -/
theorem exists_lookUp (settings : DebuggerSettings) (thread : ThreadId) (loader : Option ObjectId) :
    ∃ made, (s.withLink (Probe.lookUp settings thread loader s.link).2).exchanges =
        s.exchanges ++ made ∧
      LookUp settings thread loader made
        (.ofHelper (Probe.lookUp settings thread loader s.link).1) := by
  have hclass := s.exchanges_findClass thread settings.helperClass loader
  unfold Probe.lookUp
  rcases hf : s.link.findClass thread settings.helperClass loader with ⟨error | owner, l⟩ <;>
    rw [hf] at hclass <;> dsimp only at hclass ⊢
  · exact ⟨_, (exchanges_note (s.withLink l) _).trans hclass, .noClass error⟩
  · have hmethod := (s.withLink l).exchanges_findMethod owner settings.helperMethod
      settings.helperSignature
    rw [hclass, List.append_assoc] at hmethod
    rcases hg : l.findMethod owner settings.helperMethod settings.helperSignature with
      ⟨error | _ | method, l'⟩ <;>
      rw [show (s.withLink l).link.findMethod owner settings.helperMethod
        settings.helperSignature = _ from hg] at hmethod <;> dsimp only at hmethod ⊢
    · exact ⟨_, (exchanges_note (s.withLink l') _).trans hmethod, .noAnswer owner error⟩
    · exact ⟨_, hmethod, .noMethod owner⟩
    · exact ⟨_, hmethod, .found owner method⟩

/-- A question is an inquiry, and its answer is what is known afterwards. -/
theorem exists_inquiry (context : Context) :
    (∃ made, (s.askProbe context).2.exchanges = s.exchanges ++ made ∧
      Inquiry s.settings context s.probe made (s.askProbe context).2.probe) ∧
    (s.askProbe context).1 =
      (s.settings.batchEvaluation && (s.askProbe context).2.probe.allows) := by
  unfold askProbe
  cases hb : s.settings.batchEvaluation with
  | false => exact ⟨⟨[], (List.append_nil _).symm, .off hb⟩, rfl⟩
  | true =>
    refine ⟨?_, rfl⟩
    rw [if_pos rfl]
    unfold Probe.ask
    cases hp : s.probe with
    | available helper =>
      exact ⟨[], (List.append_nil _).symm, .known fun h => by cases h⟩
    | unavailable => exact ⟨[], (List.append_nil _).symm, .known fun h => by cases h⟩
    | unknown =>
      cases hc : context.connection with
      | remote =>
        refine ⟨[], ?_, .remote hb hc⟩
        exact (exchanges_note s _).trans (List.append_nil _).symm
      | localProcess =>
        cases ht : context.scope.thread with
        | none => exact ⟨[], (List.append_nil _).symm, .threadless hc ht⟩
        | some thread =>
          obtain ⟨made, hmade, hlookUp⟩ := s.exists_lookUp s.settings thread context.loader
          exact ⟨made, (exchanges_note (s.withLink _) _).trans hmade, .lookUp hb hc ht hlookUp⟩

/-! ## Steps -/

/-- The context that a step asks the probe about: that of the embedder's question, or of a submission of an
object while there is a sender. -/
def query? (s : Session) : Step → Option Context
  | .available place => s.contextAt? place
  | .submit submission | .submitRequest submission =>
    if s.queue.hasSender && submission.value.objectId?.isSome then s.contextAt? submission.place
    else none
  | _ => none

/-- What a step does to what is known about the helper: a question is an inquiry, and otherwise nothing is
asked, and only the end of the debuggee makes a difference. -/
structure Asks (s : Session) (step : Step) (s' : Session) : Prop where
  settings : s'.settings = s.settings
  asked : ∀ context, s.query? step = some context →
    ∃ made, s'.exchanges = s.exchanges ++ made ∧
      Inquiry s.settings context s.probe made s'.probe
  unasked : s.query? step = none → step ≠ .processDetached →
    s'.probe = s.probe ∧ (step.isSubmission = true → s'.exchanges = s.exchanges)
  detached : step = .processDetached → s'.probe = .unknown ∧ s'.exchanges = s.exchanges

/-- Whether nothing was asked: the settings, what is known about the helper and the exchanges stay. -/
structure Silent (s s' : Session) : Prop where
  settings : s'.settings = s.settings
  probe : s'.probe = s.probe
  exchanges : s'.exchanges = s.exchanges

instance : Std.Refl Silent := ⟨fun _ => ⟨rfl, rfl, rfl⟩⟩

instance : IsTrans Session Silent :=
  ⟨fun _ _ _ h h' => ⟨h'.settings.trans h.settings, h'.probe.trans h.probe,
    h'.exchanges.trans h.exchanges⟩⟩

/-- Entries that are no exchanges ask nothing. -/
theorem silent_record {entry : Entry} (h : entry.exchange? = none) (s : Session) :
    Silent s (s.record entry) := ⟨rfl, rfl, exchanges_record h s⟩

theorem silent_note (s : Session) (notice : Logging.Notice) : Silent s (s.note notice) :=
  ⟨rfl, rfl, exchanges_note s notice⟩

/-- Sending a task asks nothing. -/
theorem silent_invoke (s : Session) (task : Task) : Silent s (s.invoke task) := by
  have hsent : Silent s { s with queue := s.queue.send task } := ⟨rfl, rfl, rfl⟩
  unfold invoke
  dsimp only
  split
  · exact hsent
  · exact IsTrans.trans _ _ _ hsent (silent_note _ _)

/-- Nor does joining a batch. -/
theorem silent_join (s : Session) (request : Request) : Silent s (s.join request) := by
  have hput : ∀ pending, Silent s { s with pending := pending } := fun _ => ⟨rfl, rfl, rfl⟩
  unfold join
  dsimp only
  split
  · exact hput _
  · exact IsTrans.trans _ _ _ (hput _) (silent_invoke _ _)

/-- A request that is submitted asks the probe if there is a sender and it refers to an object, and asks
nothing otherwise. -/
theorem submit_cases (s : Session) (request : Request) :
    (s.queue.hasSender && request.value.objectId?.isSome) = false ∧ Silent s (s.submit request) ∨
    (s.queue.hasSender && request.value.objectId?.isSome) = true ∧ ∃ t, Silent s t ∧
      Silent (t.askProbe request.context).2 (s.submit request) := by
  cases hs : s.queue.hasSender with
  | false =>
    refine .inl ⟨rfl, ?_⟩
    rw [submit, if_neg (by simp [hs])]
    exact silent_note s _
  | true =>
    have hnone : (Entry.accepted request).exchange? = none := rfl
    have hrecord := silent_record hnone s
    rw [submit_of_hasSender hs]
    cases ho : request.value.objectId?.isSome with
    | false =>
      refine .inl ⟨rfl, ?_⟩
      rw [accept_of_local (by simpa using ho)]
      exact IsTrans.trans _ _ _ hrecord (silent_invoke _ _)
    | true =>
      refine .inr ⟨rfl, _, hrecord, ?_⟩
      rw [accept_of_object ho]
      split
      · exact silent_join _ _
      · exact silent_invoke _ _

/-- A step that asks nothing and is not the end of the debuggee leaves what is known. -/
theorem Asks.of_silent {s s' : Session} {step : Step} (query : s.query? step = none)
    (present : step ≠ .processDetached) (h : Silent s s') : Asks s step s' := by
  refine ⟨h.settings, fun context hq => ?_, fun _ _ => ⟨h.probe, fun _ => h.exchanges⟩,
    fun hd => absurd hd present⟩
  rw [query] at hq
  cases hq

/-- A step that asks once is an inquiry, whatever it does in front of it and behind it. -/
theorem Asks.of_ask {s t t' : Session} {step : Step} {context : Context}
    (query : s.query? step = some context) (present : step ≠ .processDetached) (before : Silent s t)
    (after : Silent (t.askProbe context).2 t') : Asks s step t' := by
  have hsettings : (t.askProbe context).2.settings = t.settings := by
    unfold askProbe
    split <;> rfl
  obtain ⟨⟨made, hmade, hinquiry⟩, -⟩ := t.exists_inquiry context
  refine ⟨after.settings.trans (hsettings.trans before.settings), fun context' hq => ?_, ?_,
    fun hd => absurd hd present⟩
  · obtain rfl : context = context' := Option.some.inj (query.symm.trans hq)
    refine ⟨made, ?_, ?_⟩
    · rw [after.exchanges, hmade, before.exchanges]
    · rw [after.probe, ← before.settings, ← before.probe]
      exact hinquiry
  · intro hq
    rw [query] at hq
    cases hq

/-- A submission asks for an object while a sender is left. -/
theorem asks_submission {s : Session} {submission : Submission} {step : Step}
    (query : s.query? step = if s.queue.hasSender && submission.value.objectId?.isSome
      then s.contextAt? submission.place else none) (present : step ≠ .processDetached) :
    Asks s step
      ((withRequest submission fun request => changing (·.submit request)).run.run s).2 := by
  rw [run_withRequest]
  unfold makeRequest
  cases hc : s.contextAt? submission.place with
  | none =>
    rw [hc, ite_self] at query
    exact .of_silent query present (Std.Refl.refl s)
  | some context =>
    rw [hc] at query
    have hmade : Silent s { s with made := s.made + 1 } := ⟨rfl, rfl, rfl⟩
    rcases submit_cases { s with made := s.made + 1 }
      ⟨s.made, submission.label, submission.value, context, submission.sink⟩ with
      ⟨hquiet, hsilent⟩ | ⟨hasks, t, hbefore, hafter⟩
    · replace hquiet : (s.queue.hasSender && submission.value.objectId?.isSome) = false := hquiet
      rw [hquiet] at query
      exact .of_silent query present (IsTrans.trans _ _ _ hmade hsilent)
    · replace hasks : (s.queue.hasSender && submission.value.objectId?.isSome) = true := hasks
      rw [hasks] at query
      exact .of_ask query present (IsTrans.trans _ _ _ hmade hbefore) hafter

/-- A step that asks nothing leaves what is known as it is, but for the end of the debuggee. -/
theorem probe_perform {step : Step} (h : step.isSubmission = false)
    (present : step ≠ .processDetached) (s : Session) :
    (s.after (.step step)).settings = s.settings ∧ (s.after (.step step)).probe = s.probe := by
  have hreacts : ∀ {t t' : Session}, t.settings = s.settings → t.probe = s.probe → Reacts t t' →
      t'.settings = s.settings ∧ t'.probe = s.probe :=
    fun hsettings hprobe hr => ⟨hr.settings.trans hsettings, hr.probe.trans hprobe⟩
  cases step with
  | submit submission => cases h
  | submitRequest submission => cases h
  | available place => cases h
  | processDetached => exact absurd rfl present
  | invalidate index =>
    show (s.invalidateAt index).settings = _ ∧ (s.invalidateAt index).probe = _
    rw [invalidateAt_eq]
    exact ⟨rfl, rfl⟩
  | invoke command => exact hreacts rfl rfl (reacts_offer s command)
  | call call => exact hreacts rfl rfl (reacts_callDirectly call s)
  | request submission ending =>
    simp only [after, perform]
    rw [run_withRequest]
    unfold makeRequest
    cases s.contextAt? submission.place with
    | none => exact ⟨rfl, rfl⟩
    | some context =>
      exact hreacts (t := { s with made := s.made + 1 }) rfl rfl (reacts_finish _ ending _)
  | evaluateBatch place helper values =>
    simp only [after, perform]
    rw [run_withContext]
    cases s.contextAt? place with
    | none => exact ⟨rfl, rfl⟩
    | some context =>
      exact hreacts (t := { s with made := s.made + values.length }) rfl rfl
        (reacts_batchByHand context helper values s)
  | probe place =>
    simp only [after, perform]
    rw [run_withContext]
    cases s.contextAt? place with
    | none => exact ⟨rfl, rfl⟩
    | some context => exact ⟨rfl, rfl⟩
  | _ => exact ⟨rfl, rfl⟩

/-- Every step does to what is known about the helper what its question says. -/
theorem asks_perform (s : Session) (step : Step) : Asks s step (s.after (.step step)) := by
  by_cases hsubmission : step.isSubmission = true
  · cases step with
    | submit submission => exact asks_submission rfl fun h => by cases h
    | submitRequest submission => exact asks_submission rfl fun h => by cases h
    | available place =>
      show Asks s _ ((withContext place _).run.run s).2
      rw [run_withContext]
      cases hc : s.contextAt? place with
      | none => exact .of_silent hc (fun h => by cases h) (Std.Refl.refl s)
      | some context =>
        exact .of_ask hc (fun h => by cases h) (Std.Refl.refl s) (Std.Refl.refl _)
    | _ => cases hsubmission
  · have hquery : s.query? step = none := by
      cases step with
      | submit submission => exact absurd rfl hsubmission
      | submitRequest submission => exact absurd rfl hsubmission
      | available place => exact absurd rfl hsubmission
      | _ => rfl
    by_cases hd : step = .processDetached
    · subst hd
      refine ⟨rfl, fun context hq => ?_, fun _ h => absurd rfl h,
        fun _ => ⟨rfl, exchanges_note s _⟩⟩
      cases hq
    · obtain ⟨hsettings, hprobe⟩ := probe_perform (Bool.eq_false_iff.2 hsubmission) hd s
      refine ⟨hsettings, fun context hq => ?_, fun _ _ => ⟨hprobe, fun h => absurd h hsubmission⟩,
        fun h => absurd h hd⟩
      rw [hquery] at hq
      cases hq

/-! ## Runs -/

/-- Whether steps are taken on the way from one session to another, and in front of them, between them and
behind them what is known about the helper stays. Anything else may change there, the debuggee too. -/
inductive Passes : Session → List (Session × Step) → Session → Prop where
  | rest {s s' : Session} (settings : s'.settings = s.settings) (probe : s'.probe = s.probe) :
      Passes s [] s'
  | step {s u s' : Session} {step : Step} {taken : List (Session × Step)}
      (settings : u.settings = s.settings) (probe : u.probe = s.probe)
      (rest : Passes (u.after (.step step)) taken s') : Passes s ((u, step) :: taken) s'

theorem Passes.refl (s : Session) : Passes s [] s := .rest rfl rfl

/-- What comes in front may change anything but what is known. -/
theorem Passes.of_eq {s t s' : Session} {taken : List (Session × Step)} (h : Passes t taken s')
    (settings : t.settings = s.settings) (probe : t.probe = s.probe) : Passes s taken s' := by
  cases h with
  | rest settings' probe' => exact .rest (settings'.trans settings) (probe'.trans probe)
  | step settings' probe' rest => exact .step (settings'.trans settings) (probe'.trans probe) rest

/-- Steps on the way to a session and on the way on from it are all on the way. -/
theorem Passes.append {s t s' : Session} {taken taken' : List (Session × Step)}
    (h : Passes s taken t) (h' : Passes t taken' s') : Passes s (taken ++ taken') s' := by
  induction h with
  | rest settings probe => exact h'.of_eq settings probe
  | step settings probe _ ih => exact .step settings probe (ih h')

/-- What comes behind may change anything but what is known, too. -/
theorem Passes.followed {s t s' : Session} {taken : List (Session × Step)} (h : Passes s taken t)
    (settings : s'.settings = t.settings) (probe : s'.probe = t.probe) : Passes s taken s' := by
  have happend := h.append (.rest settings probe)
  rwa [List.append_nil] at happend

/-- The steps of a command are taken one after the other, up to the first one that panics. -/
theorem passes_performAll (command : String) (steps : List Step) (s : Session) :
    Passes s (stepsIn command steps s) ((performAll command steps).run.run s).2 := by
  induction steps generalizing s with
  | nil => exact .refl s
  | cons step rest ih =>
    rw [run_performAll_cons, stepsIn]
    refine .step rfl rfl ?_
    have hafter : s.after (.step step) = ((perform step).run.run s).2 := rfl
    rw [hafter]
    rcases (perform step).run.run s with ⟨payload | result, s'⟩
    · exact .refl s'
    · exact (ih (s'.emit (.performed command step result))).of_eq rfl rfl

/-- The steps of an event are all that changes what is known about the helper. -/
theorem passes_after (s : Session) (event : Event) :
    Passes s (s.stepsAt event) (s.after event) := by
  cases event with
  | step step => exact .step rfl rfl (.refl _)
  | turn =>
    cases hw : s.queue.waiting with
    | nil =>
      rw [after_turn_of_nil hw, show s.stepsAt .turn = [] by simp [stepsAt, hw]]
      exact .refl s
    | cons task rest =>
      by_cases hserved : task.isCommand = false
      · -- requests are served without steps
        have hreacts := reacts_turn hw hserved
        have hnone : s.stepsAt .turn = [] := by
          simp only [stepsAt, hw]
          cases task with
          | command command scope => cases hserved
          | _ => rfl
        rw [hnone]
        exact .rest hreacts.settings hreacts.probe
      · cases task with
        | command command scope =>
          obtain ⟨steps, hsteps, hafter⟩ := after_turn_of_command hw
          have hbegun : ((s.taken rest).begun (.command command scope)).settings = s.settings ∧
              ((s.taken rest).begun (.command command scope)).probe = s.probe := by
            unfold begun
            cases Task.start? _ _ <;> exact ⟨rfl, rfl⟩
          -- a command that panics has taken its steps up to there all the same
          have hall := passes_performAll command.name steps
            ((s.taken rest).begun (.command command scope))
          rw [hsteps]
          refine Passes.of_eq ?_ hbegun.1 hbegun.2
          rcases hafter with hafter | ⟨cancelled, payload, hafter⟩ <;> rw [hafter]
          · exact hall
          · exact hall.followed rfl rfl
        | flush context => exact absurd rfl hserved
        | individual request => exact absurd rfl hserved
  | dropSender =>
    show Passes s [] s.dropOwnSender
    unfold dropOwnSender
    split <;> exact .rest rfl rfl
  | dropQueue => exact .rest rfl rfl


/-! ## What holds along a run -/

variable {s s' : Session} {taken : List (Session × Step)}

/-- Once something is known, only the end of the debuggee changes it, and submissions call nothing. -/
theorem Asks.of_known {step : Step} (h : Asks s step s') (known : s.probe ≠ .unknown)
    (present : step ≠ .processDetached) :
    s'.probe = s.probe ∧ (step.isSubmission = true → s'.exchanges = s.exchanges) := by
  cases hq : s.query? step with
  | none => exact h.unasked hq present
  | some context =>
    obtain ⟨made, hmade, hinquiry⟩ := h.asked context hq
    obtain ⟨rfl, hprobe⟩ := hinquiry.of_known known
    exact ⟨hprobe, fun _ => hmade.trans (List.append_nil _)⟩

/-- A submission that calls the debuggee looks for the helper, and afterwards something is known. -/
theorem Asks.of_calls {step : Step} (h : Asks s step s') (submission : step.isSubmission = true)
    (calls : s'.exchanges ≠ s.exchanges) : s.probe = .unknown ∧ s'.probe ≠ .unknown := by
  cases hq : s.query? step with
  | none =>
    have hpresent : step ≠ .processDetached := by
      rintro rfl
      cases submission
    exact absurd ((h.unasked hq hpresent).2 submission) calls
  | some context =>
    obtain ⟨made, hmade, hinquiry⟩ := h.asked context hq
    have hne : made ≠ [] := by
      rintro rfl
      exact calls (hmade.trans (List.append_nil _))
    obtain ⟨-, -, -, hbefore, hafter⟩ := hinquiry.of_made hne
    exact ⟨hbefore, hafter⟩

/-- A run through steps can be cut at each of them. -/
theorem Passes.split {before after : List (Session × Step)} {p : Session × Step}
    (h : Passes s (before ++ p :: after) s') :
    Passes s before p.1 ∧ Passes (p.1.after (.step p.2)) after s' := by
  induction before generalizing s with
  | nil =>
    cases h with
    | step settings probe rest => exact ⟨.rest settings probe, rest⟩
  | cons q before ih =>
    cases h with
    | step settings probe rest =>
      obtain ⟨hbefore, hafter⟩ := ih rest
      exact ⟨.step settings probe hbefore, hafter⟩

/-- The settings stay over a whole run. -/
theorem Passes.settings (h : Passes s taken s') :
    s'.settings = s.settings ∧ ∀ p ∈ taken, p.1.settings = s.settings := by
  induction h with
  | rest settings probe => exact ⟨settings, by simp⟩
  | @step s u s' step taken settings probe _ ih =>
    have hstep := (asks_perform u step).settings.trans settings
    refine ⟨ih.1.trans hstep, ?_⟩
    rintro p (_ | ⟨_, hp⟩)
    · exact settings
    · exact (ih.2 p hp).trans hstep

/-- What is known holds until the end of the debuggee, and until then nothing is looked for. -/
theorem Passes.known (h : Passes s taken s') (known : s.probe ≠ .unknown)
    (present : ∀ p ∈ taken, p.2 ≠ .processDetached) :
    s'.probe = s.probe ∧ ∀ p ∈ taken, p.1.probe = s.probe ∧
      (p.1.after (.step p.2)).probe = s.probe ∧
      (p.2.isSubmission = true → (p.1.after (.step p.2)).exchanges = p.1.exchanges) := by
  induction h with
  | rest settings probe => exact ⟨probe, by simp⟩
  | @step s u s' step taken settings probe _ ih =>
    -- the first step does not change what is known, so the rest begins with the same
    rw [List.forall_mem_cons] at present
    have hknown : u.probe ≠ .unknown := by rwa [probe]
    obtain ⟨hprobe, hquiet⟩ := (asks_perform u step).of_known hknown present.1
    rw [probe] at hprobe
    obtain ⟨hend, hall⟩ := ih (by rwa [hprobe]) present.2
    rw [hprobe] at hend hall
    refine ⟨hend, ?_⟩
    rintro p (_ | ⟨_, hp⟩)
    · exact ⟨probe, hprobe, hquiet⟩
    · exact hall p hp

/-- With batches turned off nothing is ever known. -/
theorem Passes.off (h : Passes s taken s') (off : s.settings.batchEvaluation = false)
    (unknown : s.probe = .unknown) :
    s'.probe = .unknown ∧ ∀ p ∈ taken, p.1.probe = .unknown := by
  induction h with
  | rest settings probe => exact ⟨probe.trans unknown, by simp⟩
  | @step s u s' step taken settings probe _ ih =>
    have hasks := asks_perform u step
    have hoff : u.settings.batchEvaluation = false := by rwa [settings]
    have hunknown : (u.after (.step step)).probe = .unknown := by
      by_cases hd : step = .processDetached
      · exact (hasks.detached hd).1
      · cases hq : u.query? step with
        | none => exact (hasks.unasked hq hd).1.trans (probe.trans unknown)
        | some context =>
          obtain ⟨made, -, hinquiry⟩ := hasks.asked context hq
          exact (hinquiry.of_off hoff).trans (probe.trans unknown)
    obtain ⟨hend, hall⟩ := ih (by rwa [hasks.settings]) hunknown
    refine ⟨hend, ?_⟩
    rintro p (_ | ⟨_, hp⟩)
    · exact probe.trans unknown
    · exact hall p hp

/-- Once something is known, a question changes nothing and answers from it. -/
theorem askProbe_of_known (known : s.probe ≠ .unknown) (context : Context) :
    s.askProbe context = (s.settings.batchEvaluation && s.probe.allows, s) := by
  unfold askProbe
  cases hb : s.settings.batchEvaluation with
  | false => rfl
  | true =>
    rw [if_pos rfl]
    unfold Probe.ask
    cases hp : s.probe with
    | unknown => exact absurd hp known
    | available helper => simp [← hp]
    | unavailable => simp [← hp]

/-! ## One look-up -/

/-- The session with a changed debuggee. -/
def meddled (s : Session) (change : Debuggee → Debuggee) : Session :=
  s.withLink { s.link with debuggee := change s.link.debuggee }

/-- The session after a run in which the debuggee changes in front of each event, in whatever way. -/
def playUnder (s : Session) : List ((Debuggee → Debuggee) × Event) → Session
  | [] => s
  | (change, event) :: rest => ((s.meddled change).after event).playUnder rest

/-- The steps that are taken in a run in which the debuggee changes in front of each event. -/
def stepsUnder (s : Session) : List ((Debuggee → Debuggee) × Event) → List (Session × Step)
  | [] => []
  | (change, event) :: rest =>
    (s.meddled change).stepsAt event ++ ((s.meddled change).after event).stepsUnder rest

/-- A run in which the debuggee is left alone is a run like any other. -/
theorem playUnder_id (s : Session) (events : List Event) :
    s.playUnder (events.map (id, ·)) = s.play events ∧
      s.stepsUnder (events.map (id, ·)) = s.steps events := by
  induction events generalizing s with
  | nil => exact ⟨rfl, rfl⟩
  | cons event rest ih =>
    obtain ⟨hplay, hsteps⟩ := ih (s.after event)
    refine ⟨hplay, ?_⟩
    rw [List.map_cons, stepsUnder, steps]
    exact congrArg (s.stepsAt event ++ ·) hsteps

/-- The steps of a run are on its way, whatever becomes of the debuggee in front of each event. -/
theorem passes_playUnder (s : Session) (run : List ((Debuggee → Debuggee) × Event)) :
    Passes s (s.stepsUnder run) (s.playUnder run) := by
  induction run generalizing s with
  | nil => exact .refl s
  | cons first rest ih =>
    obtain ⟨change, event⟩ := first
    have hfirst := (s.meddled change).passes_after event
    exact (hfirst.append (ih ((s.meddled change).after event))).of_eq rfl rfl

variable (debuggee : Debuggee) (settings : DebuggerSettings) (connection : Connection)

/-- In every run, whatever becomes of the debuggee meanwhile: each step does to what is known about the helper
what `Asks` says; of two submissions or questions that call the debuggee, the second comes after an end of the
debuggee; what is known after a step is what is known, and what every question is answered from, until the next
end of the debuggee; nothing is ever known if batches are not to be evaluated; and whatever else the session
calls in an event, it calls to serve requests. -/
theorem probed_once (run : List ((Debuggee → Debuggee) × Event)) :
    let s₀ := start debuggee settings connection
    let s := s₀.playUnder run
    let taken := s₀.stepsUnder run
    (∀ p ∈ taken, p.1.settings = settings ∧ Asks p.1 p.2 (p.1.after (.step p.2))) ∧
    (∀ before between after p q, taken = before ++ p :: (between ++ q :: after) →
      p.2.isSubmission = true → (p.1.after (.step p.2)).exchanges ≠ p.1.exchanges →
      q.2.isSubmission = true → (q.1.after (.step q.2)).exchanges ≠ q.1.exchanges →
        ∃ d ∈ between, d.2 = .processDetached) ∧
    (∀ before after p, taken = before ++ p :: after →
      (p.1.after (.step p.2)).probe ≠ .unknown → (∀ d ∈ after, d.2 ≠ .processDetached) →
        (∀ q ∈ after, q.1.probe = (p.1.after (.step p.2)).probe) ∧
        s.probe = (p.1.after (.step p.2)).probe ∧
        ∀ context, s.askProbe context = (settings.batchEvaluation && s.probe.allows, s)) ∧
    (settings.batchEvaluation = false → s.probe = .unknown ∧ ∀ p ∈ taken, p.1.probe = .unknown) ∧
    ∀ event, ∀ x ∈ s.exchangesSince (s.after event),
      (∃ p ∈ s.stepsAt event, x ∈ p.1.exchangesSince (p.1.after (.step p.2))) ∨
        x.1.Serves settings s.probe := by
  intro s₀ s taken
  have hpasses : Passes s₀ taken s := s₀.passes_playUnder run
  obtain ⟨hsettings, hall⟩ := hpasses.settings
  refine ⟨fun p hp => ⟨hall p hp, asks_perform p.1 p.2⟩, ?_, ?_, ?_, ?_⟩
  · -- what the first one found out would still be known at the second one
    intro before between after p q hsplit hp hcalls hq hcalls'
    rw [hsplit] at hpasses
    obtain ⟨-, hknown⟩ := (asks_perform p.1 p.2).of_calls hp hcalls
    by_contra hnone
    obtain ⟨hbetween, -⟩ := hpasses.split.2.split
    obtain ⟨hsame, -⟩ := hbetween.known hknown fun d hd h => hnone ⟨d, hd, h⟩
    obtain ⟨hunknown, -⟩ := (asks_perform q.1 q.2).of_calls hq hcalls'
    exact hknown (hsame.symm.trans hunknown)
  · intro before after p hsplit hknown hpresent
    rw [hsplit] at hpasses
    obtain ⟨hend, hlater⟩ := hpasses.split.2.known hknown hpresent
    refine ⟨fun q hq => (hlater q hq).1, hend, fun context => ?_⟩
    have hask := askProbe_of_known (by rwa [hend]) context
    rwa [hsettings] at hask
  · exact fun off => hpasses.off off rfl
  · intro event x hx
    rcases (makes_after event).since.2 x hx with hstep | ⟨-, -, hserves⟩
    · exact .inl hstep
    · rw [hsettings] at hserves
      exact .inr hserves

/-- A question from a stop without a thread, two objects from another stop, and after the end of the debuggee
a third one. -/
def twoAttachments : List Event :=
  [.step (.suspend 0 none), .step (.suspend 0 (some 1)), .step (.available ⟨0, none, none⟩),
    .step (.submit ⟨"a", .object 76 2, ⟨1, none, none⟩, ⟨[], [], [], none⟩⟩),
    .step (.submit ⟨"b", .object 76 3, ⟨1, none, none⟩, ⟨[], [], [], none⟩⟩),
    .step .processDetached,
    .step (.submit ⟨"c", .object 76 4, ⟨1, none, none⟩, ⟨[], [], [], none⟩⟩)]

/-- The first and the third object make the session look for the helper, between them the debuggee ended, and
afterwards every question is answered from what was found. -/
theorem probed_once_twoAttachments :
    let s₀ := start .withHelper {} .localProcess
    let run := twoAttachments.map ((id : Debuggee → Debuggee), ·)
    let s := s₀.playUnder run
    (s.exchanges.map fun x => decide (x.1.isLookUp = true)) = [true, true, true, true] ∧
    (∃ d ∈ ((s₀.stepsUnder run).drop 4).take 2, d.2 = .processDetached) ∧
    (∀ context, s.askProbe context = (true, s)) ∧
    ((start .withHelper { batchEvaluation := false } .localProcess).playUnder run).probe =
      .unknown := by
  intro s₀ run s
  obtain ⟨-, honce, hstable, -, -⟩ := probed_once .withHelper {} .localProcess run
  obtain ⟨-, -, -, hoff, -⟩ :=
    probed_once .withHelper { batchEvaluation := false } .localProcess run
  refine ⟨by decide +kernel, ?_, ?_, (hoff rfl).1⟩
  · exact honce ((s₀.stepsUnder run).take 3) _ [] _ _ rfl rfl (by decide +kernel) rfl
      (by decide +kernel)
  · intro context
    obtain ⟨-, -, hanswers⟩ :=
      hstable ((s₀.stepsUnder run).take 6) [] _ rfl (by decide +kernel) (by simp)
    have hallows : s.probe.allows = true := by decide +kernel
    rw [hanswers context, show (s₀.playUnder run).probe.allows = true from hallows]
    rfl

end Session

end BatchStringify
