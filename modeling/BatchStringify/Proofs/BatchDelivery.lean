import BatchStringify.Proofs.Helper
import BatchStringify.Session.Top

/-!
# Batches are delivered all or nothing

The reply to a batch carries no names, only an order, so a reply that does not fit must not reach
any request. An evaluation with one call completes every request from the entry at its place, or it
completes none and leaves them all. In the second case a flush goes on one by one, from the first
request to the last, so the two ways are never mixed within a batch.
-/

namespace BatchStringify.Session

variable {requests : List Request}

theorem complete_eq_ok {request : Request} (h : request.sink.panic = none)
    (completion : Completion) (s : Session) :
    ((complete request completion).run.run s).1 = .ok () := by
  rw [run_complete, h]

/-- Requests whose sinks do not panic are all served from the entries. -/
theorem deliver_eq_ok (h : ∀ request ∈ requests, request.sink.panic = none)
    (entries : List Reply.Entry) (s : Session) :
    ((deliver requests entries).run.run s).1 = .ok () := by
  refine forM_eq_ok (fun p hp s => ?_) s
  exact complete_eq_ok (h p.1 (List.of_mem_zip hp).1) _ s

/-- Requests whose sinks do not panic all come to what they come to alone when they are evaluated
one by one. -/
theorem individually_alone (h : ∀ request ∈ requests, request.sink.panic = none) (s : Session) :
    ∃ s', (requests.forM evaluateIndividually).run.run s = (.ok (), s') ∧
      s'.ledger = s.ledger.complete (requests.map (Request.alone s.link.debuggee.displays)) := by
  have hok : ((requests.forM evaluateIndividually).run.run s).1 = .ok () := by
    refine forM_eq_ok (fun request hr s => ?_) s
    rw [run_evaluateIndividually]
    exact complete_eq_ok (h request hr) _ _
  obtain ⟨-, hd⟩ := delivers_individually requests s
  have hl := hd.eq_complete hok
  rcases hr : (requests.forM evaluateIndividually).run.run s with ⟨payload | _, s'⟩
  · rw [hr] at hok
    cases hok
  · rw [hr] at hl
    exact ⟨s', rfl, hl⟩

/-- An evaluation with one call that was answered completes each request with the entry at its
place. -/
theorem evaluateBatch_of_answered {helper : Helper} {context : Context} {s : Session}
    {entries : List Reply.Entry} {link : Link}
    (answered : Attempt.Answered s.settings helper context (requests.map (·.value)) s.link entries
      link) (sinks : ∀ request ∈ requests, request.sink.panic = none) :
    ∃ s', (evaluateBatch helper context requests).run.run s = (.ok (true, []), s') ∧
      s'.ledger = s.ledger.complete (List.zipWith Request.answered requests entries) := by
  have hr := Attempt.evaluate_eq_entries_iff.2 answered
  have hg := Attempt.evaluate_grows s.settings helper context (requests.map (·.value)) s.link
  rw [hr] at hg
  have hok := deliver_eq_ok sinks entries (s.withLink link)
  obtain ⟨-, hd⟩ := delivers_deliver requests entries (s.withLink link)
  have hl := hd.eq_complete hok
  rw [ledger_withLink s hg] at hl
  rw [run_evaluateBatch, run_attemptBatch hr]
  dsimp only
  rcases hdel : (deliver requests entries).run.run (s.withLink link) with ⟨payload | _, s'⟩
  · rw [hdel] at hok
    cases hok
  · rw [hdel] at hl
    exact ⟨s', rfl, hl⟩

/-- An evaluation with one call that was not answered leaves all requests as they were. -/
theorem evaluateBatch_of_not_answered {helper : Helper} {context : Context} {s : Session}
    (answered : ¬∃ entries link, Attempt.Answered s.settings helper context
      (requests.map (·.value)) s.link entries link)
    (returns : Attempt.IsAsked s.settings context (requests.map (·.value)) s.link →
      ∀ payload, s.link.debuggee.reply? (requests.map (·.value)) ≠ some (.panic payload)) :
    ∃ s', (evaluateBatch helper context requests).run.run s = (.ok (false, requests), s') ∧
      s'.ledger = s.ledger ∧ s.link.debuggee.SameSetup s'.link.debuggee := by
  obtain ⟨result, link, hr⟩ := Attempt.evaluate_returns helper returns
  have hg := Attempt.evaluate_grows s.settings helper context (requests.map (·.value)) s.link
  cases result with
  | ok entries => exact absurd ⟨entries, link, Attempt.evaluate_eq_entries_iff.1 hr⟩ answered
  | error fault =>
    rw [hr] at hg
    rw [run_evaluateBatch, run_attemptBatch hr]
    exact ⟨_, rfl, (ledger_note _ rfl).trans (ledger_withLink s hg), hg.setup⟩

/-- What becomes of a flush is decided by the evaluation with one call, if the helper is known. -/
theorem run_flush_of_taken {context : Context} {s s₀ : Session}
    (taken : s.takePending context.scope.id = (requests, s₀)) (nonempty : requests ≠ []) :
    (flush context).run.run s = match s.probe.helper? with
      | none => (requests.forM evaluateIndividually).run.run s₀
      | some helper => match (evaluateBatch helper context requests).run.run s₀ with
        | (.error payload, s') => (.error payload, s')
        | (.ok (true, _), s') => (.ok (), s')
        | (.ok (false, left), s') => (left.forM evaluateIndividually).run.run s' := by
  have hprobe : s₀.probe = s.probe := by
    obtain ⟨-, rfl⟩ := Prod.mk.inj taken
    rfl
  rw [run_flush, taken, if_neg (by simpa using nonempty), run_evaluateAll, run_evaluateTogether,
    hprobe]
  cases s.probe.helper? <;> rfl

/-- The evaluation with one call in a flush left all requests, or there was none since the helper is
not known. -/
def LeftBy (helper : Helper) (context : Context) (requests : List Request) (before s s' : Session) :
    Prop :=
  before.probe.helper? = none ∧ s' = s ∨ before.probe.helper? = some helper ∧
    (evaluateBatch helper context requests).run.run s = (.ok (false, requests), s')

/-- Requests that a batch evaluation left alone are completed by the flush, each on its own. -/
theorem flush_of_leftBy {helper : Helper} {context : Context} {before s s' : Session}
    (taken : before.takePending context.scope.id = (requests, s)) (nonempty : requests ≠ [])
    (sinks : ∀ request ∈ requests, request.sink.panic = none)
    (left : LeftBy helper context requests before s s') :
    ∃ s'', (requests.forM evaluateIndividually).run.run s' = (.ok (), s'') ∧
      (flush context).run.run before = (.ok (), s'') ∧
      s''.ledger =
        s'.ledger.complete (requests.map (Request.alone s'.link.debuggee.displays)) := by
  obtain ⟨s'', hind, hl⟩ := individually_alone sinks s'
  refine ⟨s'', hind, ?_, hl⟩
  rw [run_flush_of_taken taken nonempty]
  rcases left with ⟨hhelper, rfl⟩ | ⟨hhelper, hrun⟩
  · rw [hhelper]
    exact hind
  · rw [hhelper]
    dsimp only
    rw [hrun]
    exact hind

/-- A batch evaluation that left the requests alone changed nothing about any request. -/
theorem LeftBy.keeps {helper : Helper} {context : Context} {before s s' : Session}
    (left : LeftBy helper context requests before s s')
    (returns : ∀ payload,
      s.link.debuggee.reply? (requests.map (·.value)) ≠ some (.panic payload))
    (sinks : ∀ request ∈ requests, request.sink.panic = none) :
    s'.ledger = s.ledger ∧ s.link.debuggee.SameSetup s'.link.debuggee := by
  rcases left with ⟨-, rfl⟩ | ⟨-, hrun⟩
  · exact ⟨rfl, .refl _⟩
  · have answered : ¬∃ entries link, Attempt.Answered s.settings helper context
        (requests.map (·.value)) s.link entries link := by
      rintro ⟨entries, link, h⟩
      obtain ⟨s'', hrun', -⟩ := evaluateBatch_of_answered h sinks
      rw [hrun] at hrun'
      cases hrun'
    obtain ⟨s₁, hrun₁, hkeeps⟩ := evaluateBatch_of_not_answered answered fun _ => returns
    rw [hrun] at hrun₁
    obtain ⟨-, rfl⟩ := Prod.mk.inj hrun₁
    exact hkeeps

/-- An evaluation with one call, if neither the helper nor a sink panics, completes all requests and
leaves none, each in its turn with the entry at its place, or it completes none and leaves all. It
completes them exactly if every call succeeds and the reply decodes to one entry for each request. A
flush then ends; otherwise it evaluates each request on its own, in the same order. -/
theorem batch_all_or_nothing (helper : Helper) (context : Context) (requests : List Request)
    (s : Session)
    (returns : ∀ payload,
      s.link.debuggee.reply? (requests.map (·.value)) ≠ some (.panic payload))
    (sinks : ∀ request ∈ requests, request.sink.panic = none) :
    ((∃ entries link s',
        Attempt.Answered s.settings helper context (requests.map (·.value)) s.link entries link ∧
        (evaluateBatch helper context requests).run.run s = (.ok (true, []), s') ∧
        s'.completions = s.completions ++ List.zipWith (fun request entry => (request,
          if entry.isError then
            Completion.failure ("Method threw '" ++ entry.message ++ "' exception.")
          else Completion.success entry.message)) requests entries) ∨
      (∃ s',
        (¬∃ entries link, Attempt.Answered s.settings helper context (requests.map (·.value))
          s.link entries link) ∧
        (evaluateBatch helper context requests).run.run s = (.ok (false, requests), s') ∧
        s'.completions = s.completions)) ∧
    ∀ before : Session, requests ≠ [] → before.takePending context.scope.id = (requests, s) →
      (∀ s', before.probe.helper? = some helper →
        (evaluateBatch helper context requests).run.run s = (.ok (true, []), s') →
        (flush context).run.run before = (.ok (), s')) ∧
      (∀ s', LeftBy helper context requests before s s' →
        ∃ s'', (requests.forM evaluateIndividually).run.run s' = (.ok (), s'') ∧
          (flush context).run.run before = (.ok (), s'') ∧
          s''.completions =
            s.completions ++ requests.map (Request.alone s.link.debuggee.displays)) := by
  constructor
  · -- whether every call succeeds is settled before any sink is called
    by_cases answered : ∃ entries link, Attempt.Answered s.settings helper context
        (requests.map (·.value)) s.link entries link
    · left
      obtain ⟨entries, link, h⟩ := answered
      obtain ⟨s', hrun, hledger⟩ := evaluateBatch_of_answered h sinks
      exact ⟨entries, link, s', h, hrun, congrArg Ledger.completed hledger⟩
    · right
      obtain ⟨s', hrun, hledger, -⟩ := evaluateBatch_of_not_answered answered fun _ => returns
      exact ⟨s', answered, hrun, congrArg Ledger.completed hledger⟩
  · intro before nonempty taken
    constructor
    · intro s' hhelper hrun
      have hflush := run_flush_of_taken taken nonempty
      rw [hhelper] at hflush
      dsimp only at hflush
      rw [hflush, hrun]
    · intro s' left
      obtain ⟨hledger, hsetup⟩ := left.keeps returns sinks
      obtain ⟨s'', hind, hflush, hl⟩ := flush_of_leftBy taken nonempty sinks left
      rw [hledger, hsetup.displays] at hl
      exact ⟨s'', hind, hflush, congrArg Ledger.completed hl⟩

/-- Two objects of the debuggee with the default helper, of which the second has no text. -/
def twoObjects : List Request :=
  [⟨0, "a", .object 76 2, ⟨⟨1, some 1, 0⟩, none, .localProcess⟩, ⟨[], [], [], none⟩⟩,
    ⟨1, "b", .object 76 13, ⟨⟨1, some 1, 0⟩, none, .localProcess⟩, ⟨[], [], [], none⟩⟩]

theorem batch_all_or_nothing_twoObjects :
    ∃ (entries : List Reply.Entry) (s' : Session),
      (evaluateBatch ⟨⟨10002, "com.intellij.rt.debugger.BatchEvaluatorServer"⟩, 10003⟩
        ⟨⟨1, some 1, 0⟩, none, .localProcess⟩ twoObjects).run.run
          (start .withHelper {} .localProcess) = (.ok (true, []), s') ∧
      s'.completions = List.zipWith (fun request entry => (request,
        if entry.isError then
          Completion.failure ("Method threw '" ++ entry.message ++ "' exception.")
        else Completion.success entry.message)) twoObjects entries := by
  obtain ⟨⟨entries, link, s', -, hrun, hc⟩ | ⟨s', -, hrun, -⟩, -⟩ :=
    batch_all_or_nothing ⟨⟨10002, "com.intellij.rt.debugger.BatchEvaluatorServer"⟩, 10003⟩
      ⟨⟨1, some 1, 0⟩, none, .localProcess⟩ twoObjects (start .withHelper {} .localProcess)
      (fun _ => by intro h; cases h) (by simp [twoObjects])
  · exact ⟨entries, s', hrun, hc⟩
  · have hdone : (match ((evaluateBatch
        ⟨⟨10002, "com.intellij.rt.debugger.BatchEvaluatorServer"⟩, 10003⟩
        ⟨⟨1, some 1, 0⟩, none, .localProcess⟩ twoObjects).run.run
          (start .withHelper {} .localProcess)).1 with
      | .ok (evaluated, _) => evaluated
      | .error _ => false) = true := by decide +kernel
    rw [hrun] at hdone
    cases hdone

end BatchStringify.Session
