import BatchStringify.Proofs.Attachment
import BatchStringify.Proofs.BatchDelivery
import BatchStringify.Proofs.Conservation

/-!
# No stale handles

A flush can be sent while one debuggee is attached and taken when another one is, with any number of ends and
look-ups in between. It asks what is known when it is taken, and what is known then was found since the last
end of the debuggee (`Passes.found`). So the handles of a helper that is gone are never used: either the
handles are those of a look-up since, or no method is run by its name, and then the requests are evaluated one
by one.
-/

namespace BatchStringify.Session

variable {s s' : Session} {taken : List (Session × Step)} {helper : Helper}

/-! ## What is known was found -/

/-- Whether a submission or a question found a helper, and no end of the debuggee came after it. -/
def FoundSince (taken : List (Session × Step)) (helper : Helper) : Prop :=
  ∃ before u step after thread loader, taken = before ++ (u, step) :: after ∧
    step.isSubmission = true ∧ (∀ p ∈ after, p.2 ≠ .processDetached) ∧
    (u.after (.step step)).exchanges = u.exchanges ++
      [(.findClass thread u.settings.helperClass loader, .owner helper.owner),
        (.findMethod helper.owner u.settings.helperMethod u.settings.helperSignature,
          .method (some helper.method))]

/-- A helper that was found in steps was found in these and more in front. -/
theorem FoundSince.cons (p : Session × Step) (h : FoundSince taken helper) :
    FoundSince (p :: taken) helper := by
  obtain ⟨before, u, step, after, thread, loader, rfl, h⟩ := h
  exact ⟨p :: before, u, step, after, thread, loader, rfl, h⟩

theorem isSubmission_of_query? {step : Step} {context : Context}
    (h : s.query? step = some context) : step.isSubmission = true := by
  cases step with
  | submit submission => rfl
  | submitRequest submission => rfl
  | available place => rfl
  | _ => cases h

/-- After a step the helper is known only if it was known before or the step found it. -/
theorem Asks.of_available {step : Step} (h : Asks s step s')
    (available : s'.probe = .available helper) :
    s.probe = .available helper ∧ step ≠ .processDetached ∨
      step.isSubmission = true ∧ ∃ thread loader, s'.exchanges = s.exchanges ++
        [(.findClass thread s.settings.helperClass loader, .owner helper.owner),
          (.findMethod helper.owner s.settings.helperMethod s.settings.helperSignature,
            .method (some helper.method))] := by
  have hpresent : step ≠ .processDetached := by
    intro hd
    rw [(h.detached hd).1] at available
    cases available
  cases hq : s.query? step with
  | none => exact .inl ⟨(h.unasked hq hpresent).1.symm.trans available, hpresent⟩
  | some context =>
    obtain ⟨made, hmade, hinquiry⟩ := h.asked context hq
    rw [available] at hinquiry
    rcases hinquiry.of_available with hbefore | ⟨thread, rfl⟩
    · exact .inl ⟨hbefore, hpresent⟩
    · exact .inr ⟨isSubmission_of_query? hq, thread, context.loader, hmade⟩

/-- The helper is known only if it was known from the beginning and the debuggee never ended, or it was found
since the debuggee ended last. -/
theorem Passes.found (h : Passes s taken s') (available : s'.probe = .available helper) :
    s.probe = .available helper ∧ (∀ p ∈ taken, p.2 ≠ .processDetached) ∨
      FoundSince taken helper := by
  induction h with
  | rest settings probe => exact .inl ⟨probe.symm.trans available, by simp⟩
  | @step s u s' step taken settings probe _ ih =>
    rcases ih available with ⟨hknown, hpresent⟩ | hfound
    · rcases (asks_perform u step).of_available hknown with ⟨hbefore, hstep⟩ | ⟨hsub, thread, loader, hmade⟩
      · refine .inl ⟨probe.symm.trans hbefore, ?_⟩
        rw [List.forall_mem_cons]
        exact ⟨hstep, hpresent⟩
      · exact .inr ⟨[], u, step, taken, thread, loader, rfl, hsub, hpresent, hmade⟩
    · exact .inr (hfound.cons _)

/-! ## Attempts that do not ask -/

/-- Running a method by its name is one exchange, whatever comes of it. -/
theorem exchanges_invokeStatic (s : Session) (link : Link) (thread : ThreadId) (owner : ClassHandle)
    (method : MethodId) (args : List Value) : ∃ outcome,
      (s.withLink (link.invokeStatic thread owner method args).2).exchanges =
        (s.withLink link).exchanges ++ [(.invokeStatic thread owner method args, outcome)] := by
  simp [exchanges, withLink, Link.invokeStatic, Link.exchanged, Link.record, Entry.exchange?]

/-- An attempt that does not end with a fault ran the helper. -/
theorem exists_invocation {context : Context} {values : List Value} {link : Link}
    {result : Except Panic (Except BatchFault (List Reply.Entry))}
    (h : (Attempt.evaluate s.settings helper context values).run.run.run s.link = (result, link))
    (ran : ∀ fault, result ≠ .ok (.error fault)) :
    ∃ x ∈ s.exchangesSince (s.withLink link), ∃ thread args,
      x.1 = .invokeStatic thread helper.owner helper.method args := by
  have hasked : ∃ thread array stored,
      Attempt.Asked s.settings context values s.link thread array stored ∧
      (stored.invokeStatic thread helper.owner helper.method
        [.object Value.arrayTag array]).2.Grows (fun _ => True) link := by
    rcases result with payload | fault | entries
    · obtain ⟨thread, array, stored, hasked, hinvoke⟩ := Attempt.evaluate_eq_panic h
      exact ⟨thread, array, stored, hasked, by rw [hinvoke]; exact .refl link⟩
    · exact absurd rfl (ran fault)
    · obtain ⟨hasked, hinvoke, hdisable, hstring, -, -⟩ := Attempt.evaluate_eq_entries_iff.1 h
      rename_i thread array id text stored returned pinned read
      have hpinned : returned.Grows (fun _ => True) (returned.disableCollection id).2 :=
        returned.disableCollection_grows trivial
      have hread : pinned.Grows (fun _ => True) (pinned.stringValue id).2 :=
        pinned.stringValue_grows trivial
      have hreleased : read.Grows (fun _ => True) (Attempt.release id read) :=
        Attempt.release_grows trivial read
      rw [hdisable] at hpinned
      rw [hstring] at hread
      refine ⟨thread, array, stored, hasked, ?_⟩
      rw [hinvoke]
      exact (hpinned.trans hread).trans hreleased
  obtain ⟨thread, array, stored, hasked, hgrows⟩ := hasked
  obtain ⟨before, hbefore, -⟩ := exchanges_withLink hasked.grows
  obtain ⟨later, hlater, -⟩ := exchanges_withLink (s := s.withLink _) hgrows
  obtain ⟨outcome, hcall⟩ := exchanges_invokeStatic s stored thread helper.owner helper.method
    [.object Value.arrayTag array]
  have hall : (s.withLink link).exchanges = s.exchanges ++ (before ++ [(.invokeStatic thread
      helper.owner helper.method [.object Value.arrayTag array], outcome)] ++ later) := by
    rw [← List.append_assoc, ← List.append_assoc, ← hbefore, ← hcall]
    exact hlater
  rw [exchangesSince_eq hall]
  exact ⟨_, List.mem_append_left _ (List.mem_append_right _ (List.mem_singleton.2 rfl)), thread, _,
    rfl⟩

/-- Requests are evaluated one by one in the end, or the helper was run before any of them was completed. -/
theorem evaluateAll_cases (context : Context) (requests : List Request) (s : Session) :
    (∃ u, (evaluateAll context requests).run.run s =
        (requests.forM evaluateIndividually).run.run u ∧
      u.ledger = s.ledger ∧ s.link.debuggee.SameSetup u.link.debuggee) ∨
    ∃ helper, s.probe.helper? = some helper ∧
      ∃ x ∈ s.exchangesSince ((evaluateAll context requests).run.run s).2, ∃ thread args,
        x.1 = .invokeStatic thread helper.owner helper.method args := by
  rw [run_evaluateAll, run_evaluateTogether]
  cases hp : s.probe.helper? with
  | none => exact .inl ⟨s, rfl, rfl, .refl _⟩
  | some helper =>
    have hg := Attempt.evaluate_grows s.settings helper context (requests.map (·.value)) s.link
    dsimp only
    rcases hr : (Attempt.evaluate s.settings helper context (requests.map (·.value))).run.run.run
      s.link with ⟨payload | fault | entries, link⟩ <;> rw [hr] at hg <;>
      rw [run_evaluateBatch, run_attemptBatch hr] <;> dsimp only
    · exact .inr ⟨helper, rfl, exists_invocation hr (by simp)⟩
    · exact .inl ⟨_, rfl, (ledger_note _ rfl).trans (ledger_withLink s hg), hg.setup⟩
    · -- the completions come after the invocation and make no calls
      right
      refine ⟨helper, rfl, ?_⟩
      have hdelivers : Along (Makes fun _ => False) (deliver requests entries) :=
        .of_forM fun p _ t => .of_eq (exchanges_complete _ _ t)
      have hquiet : ((deliver requests entries).run.run (s.withLink link)).2.exchanges =
          (s.withLink link).exchanges := by
        obtain ⟨more, hmore, hnone⟩ := hdelivers (s.withLink link)
        rw [hmore, List.eq_nil_iff_forall_not_mem.2 hnone, List.append_nil]
      have hx := exists_invocation hr (by simp)
      rw [exchangesSince, ← hquiet] at hx
      rcases hd : (deliver requests entries).run.run (s.withLink link) with ⟨payload | _, s'⟩ <;>
        rw [hd] at hx <;> exact hx

/-! ## Flushes -/

variable {rest : List Task} {context : Context}

/-- Containing a panic calls nothing. -/
theorem exchanges_contain (cancelled : Bool) (action : Action Unit) (s : Session) :
    (contain cancelled action s).exchanges = (action.run.run s).2.exchanges := by
  unfold contain
  rcases action.run.run s with ⟨payload | _, s'⟩
  · exact exchanges_note _ _
  · rfl

/-- It completes nothing either. -/
theorem completions_contain (cancelled : Bool) (action : Action Unit) (s : Session) :
    (contain cancelled action s).completions = (action.run.run s).2.completions := by
  unfold contain
  rcases action.run.run s with ⟨payload | _, s'⟩
  · exact congrArg Ledger.completed (ledger_note_panic s' cancelled payload)
  · rfl

theorem contain_congr {action action' : Action Unit} (cancelled : Bool)
    (h : action.run.run s = action'.run.run s') :
    contain cancelled action s = contain cancelled action' s' := by
  rw [contain, h, contain]

/-- Requests that are evaluated one by one are completed in their order, each with what it comes to alone, up to
the first one whose sink panics. -/
theorem completions_individually (requests : List Request) (s : Session) :
    ∃ done, (contain false (requests.forM evaluateIndividually) s).completions =
        s.completions ++ done ∧
      done <+: requests.map (Request.alone s.link.debuggee.displays) ∧
      ((∀ request ∈ requests, request.sink.panic = none) →
        done = requests.map (Request.alone s.link.debuggee.displays)) := by
  obtain ⟨-, done, hdone, hprefix, hall⟩ := delivers_individually requests s
  refine ⟨done, ?_, hprefix, fun sinks => hall ?_⟩
  · rw [completions_contain]
    exact congrArg Ledger.completed hdone
  · obtain ⟨s', hs, -⟩ := individually_alone sinks s
    rw [hs]

/-- A flush of a scope that is valid evaluates the requests of its batch one by one in the end, or it runs
the helper that is known. -/
theorem flush_cases (h : s.queue.waiting = .flush context :: rest)
    (valid : s.suspensions.isValid context.scope = true) :
    (∃ u, s.after .turn = contain false (s.next.forM evaluateIndividually) u ∧
      u.completions = s.completions ∧ s.link.debuggee.SameSetup u.link.debuggee) ∨
    ∃ helper, s.probe.helper? = some helper ∧ ∃ x ∈ s.exchangesSince (s.after .turn),
      ∃ thread args, x.1 = .invokeStatic thread helper.owner helper.method args := by
  have hcancelled : s.isCancelled (.flush context) = false := by
    simp [isCancelled, Task.scope?, valid]
  have hafter : s.after .turn = contain false (flush context) (s.taken rest) := by
    rw [after_turn_eq_contain h, hcancelled]
    rfl
  generalize ht : ((s.taken rest).takePending context.scope.id).2 = t
  have hbefore : t.probe = s.probe ∧ t.completions = s.completions ∧
      t.exchanges = s.exchanges ∧ t.link = s.link := by
    rw [← ht]
    exact ⟨rfl, rfl, rfl, rfl⟩
  obtain ⟨hprobe, hcompletions, hexchanges, hlink⟩ := hbefore
  have hrun := run_flush context (s.taken rest)
  rw [← show s.next = ((s.taken rest).takePending context.scope.id).1 from next_of_cons h, ht] at hrun
  cases he : s.next.isEmpty with
  | true =>
    rw [he] at hrun
    refine .inl ⟨t, ?_, hcompletions, hlink ▸ .refl _⟩
    rw [hafter, List.isEmpty_iff.1 he]
    exact contain_congr false hrun
  | false =>
    rw [he] at hrun
    rcases evaluateAll_cases context s.next t with ⟨u, hu, hledger, hsetup⟩ | ⟨helper, hhelper, hran⟩
    · refine .inl ⟨u, ?_, (congrArg Ledger.completed hledger).trans hcompletions, hlink ▸ hsetup⟩
      rw [hafter]
      exact contain_congr false (hrun.trans hu)
    · refine .inr ⟨helper, hprobe ▸ hhelper, ?_⟩
      rw [hafter, exchangesSince, exchanges_contain, hrun, ← hexchanges]
      exact hran

/-! ## No stale handles -/

/-- A call that serves requests and runs a method by its name runs the one of the helper that is known. -/
theorem invocation_of_serves {settings : DebuggerSettings} {probe : Probe} {call : Call}
    (h : call.Serves settings probe) (invocation : call.isInvocation = true) :
    ∃ helper thread args, probe.helper? = some helper ∧
      call = .invokeStatic thread helper.owner helper.method args := by
  cases call with
  | invokeStatic thread owner method args =>
    rcases h with hdisplay | ⟨helper, hhelper, rfl, rfl⟩
    · cases hdisplay
    · exact ⟨helper, thread, args, hhelper, rfl⟩
  | _ => cases invocation

theorem isInvocation_eq_false {call : Call} (h : call.isDisplay = true ∨ call.isLookUp = true) :
    call.isInvocation = false := by
  cases call with
  | invokeStatic thread owner method args => rcases h with h | h <;> cases h
  | _ => rfl

/-- A step that runs a method by its name is one with a call that the embedder chose. -/
theorem isDirect_of_invocation {step : Step} {x : Call × Outcome}
    (h : x ∈ s.exchangesSince (s.after (.step step))) (invocation : x.1.isInvocation = true) :
    step.isDirect = true := by
  by_contra hdirect
  have hx := (makes_step (Bool.eq_false_iff.2 hdirect) s).since.2 x h
  rw [isInvocation_eq_false (hx.imp_right And.left)] at invocation
  cases invocation

/-- Batches are gathered by scope, whatever becomes of the debuggee. -/
theorem gathered_playUnder (run : List ((Debuggee → Debuggee) × Event)) (h : s.ledger.Gathered) :
    (s.playUnder run).ledger.Gathered := by
  induction run generalizing s with
  | nil => exact h
  | cons first rest ih =>
    obtain ⟨change, event⟩ := first
    have hmeddled : (s.meddled change).ledger = s.ledger := rfl
    exact ih (gathered_after event (by rwa [hmeddled]))

variable (debuggee : Debuggee) (settings : DebuggerSettings) (connection : Connection)

/-- In every run, whatever becomes of the debuggee meanwhile: an event runs a method by its name only in a
step with a call that the embedder chose, or in a turn that runs a helper that was found since the debuggee
ended last. So a flush of a valid scope runs such a helper, or it runs no method by its name and evaluates the
requests of its batch one by one, in the order in which they were accepted; it completes them in this order,
each with what it comes to alone, and all of them if no sink panics. -/
theorem no_stale_handles (run : List ((Debuggee → Debuggee) × Event)) :
    let s₀ := start debuggee settings connection
    let s := s₀.playUnder run
    let taken := s₀.stepsUnder run
    (∀ event, (s.after event).exchanges = s.exchanges ++ s.exchangesSince (s.after event) ∧
      ∀ x ∈ s.exchangesSince (s.after event), x.1.isInvocation = true →
        (∃ p ∈ s.stepsAt event, p.2.isDirect = true ∧
          x ∈ p.1.exchangesSince (p.1.after (.step p.2))) ∨
        event = .turn ∧ ∃ helper thread args,
          x.1 = .invokeStatic thread helper.owner helper.method args ∧ FoundSince taken helper) ∧
    ∀ context rest, s.queue.waiting = .flush context :: rest →
      s.suspensions.isValid context.scope = true →
        (∃ x ∈ s.exchangesSince (s.after .turn), ∃ helper thread args,
          x.1 = .invokeStatic thread helper.owner helper.method args ∧ FoundSince taken helper) ∨
        (∀ x ∈ s.exchangesSince (s.after .turn), x.1.isInvocation = false) ∧
          s.next.Sublist s.accepted ∧ ∃ u done,
            s.after .turn = contain false (s.next.forM evaluateIndividually) u ∧
            (s.after .turn).completions = s.completions ++ done ∧
            done <+: s.next.map (Request.alone s.link.debuggee.displays) ∧
            ((∀ request ∈ s.next, request.sink.panic = none) →
              done = s.next.map (Request.alone s.link.debuggee.displays)) := by
  intro s₀ s taken
  have hpasses : Passes s₀ taken s := s₀.passes_playUnder run
  have hfound : ∀ helper, s.probe.helper? = some helper → FoundSince taken helper := by
    intro helper hhelper
    have havailable : s.probe = .available helper := by
      cases hp : s.probe <;> rw [hp] at hhelper <;> cases hhelper
      rfl
    rcases hpasses.found havailable with ⟨hstart, -⟩ | hfound
    · cases hstart
    · exact hfound
  -- only a turn that serves a flush runs methods by itself, and it runs the helper of the probe
  have hruns : ∀ event, ∀ x ∈ s.exchangesSince (s.after event), x.1.isInvocation = true →
      (∃ p ∈ s.stepsAt event, p.2.isDirect = true ∧
        x ∈ p.1.exchangesSince (p.1.after (.step p.2))) ∨
      event = .turn ∧ ∃ helper thread args,
        x.1 = .invokeStatic thread helper.owner helper.method args ∧ FoundSince taken helper := by
    intro event x hx hinvocation
    rcases (makes_after event).since.2 x hx with ⟨p, hp, hstep⟩ | ⟨hturn, -, hserves⟩
    · exact .inl ⟨p, hp, isDirect_of_invocation hstep hinvocation, hstep⟩
    · obtain ⟨helper, thread, args, hhelper, hcall⟩ := invocation_of_serves hserves hinvocation
      exact .inr ⟨hturn, helper, thread, args, hcall, hfound helper hhelper⟩
  refine ⟨fun event => ⟨(makes_after event).since.1, hruns event⟩, ?_⟩
  intro context rest hw valid
  have hrun : ∀ helper, s.probe.helper? = some helper →
      (∃ x ∈ s.exchangesSince (s.after .turn), ∃ thread args,
        x.1 = .invokeStatic thread helper.owner helper.method args) →
      ∃ x ∈ s.exchangesSince (s.after .turn), ∃ helper thread args,
        x.1 = .invokeStatic thread helper.owner helper.method args ∧ FoundSince taken helper :=
    fun helper hhelper ⟨x, hx, thread, args, hcall⟩ =>
      ⟨x, hx, helper, thread, args, hcall, hfound helper hhelper⟩
  rcases flush_cases hw valid with ⟨u, hafter, hcompletions, hsetup⟩ | ⟨helper, hhelper, hran⟩
  · -- the attempt may have run a method before it ended with a fault
    by_cases hquiet : ∀ x ∈ s.exchangesSince (s.after .turn), x.1.isInvocation = false
    · have hgathered : s.ledger.Gathered :=
        gathered_playUnder run fun _ => List.nil_sublist _
      have hnext : s.next = (s.pending.find? context.scope.id).getD [] := next_of_cons hw
      obtain ⟨done, hdone, hall⟩ := completions_individually s.next u
      rw [← hafter, hcompletions] at hdone
      rw [hsetup.displays] at hall
      exact .inr ⟨hquiet, hnext ▸ hgathered context.scope.id, u, done, hafter, hdone, hall⟩
    · simp only [not_forall, Bool.not_eq_false] at hquiet
      obtain ⟨x, hx, hinvocation⟩ := hquiet
      rcases hruns .turn x hx hinvocation with ⟨p, hp, -⟩ | ⟨-, hhelper⟩
      · simp [stepsAt, hw, stepsOf] at hp
      · exact .inl ⟨x, hx, hhelper⟩
  · exact .inl (hrun helper hhelper hran)

/-- An object whose flush waits when the debuggee ends. -/
def queuedFlush : List Event :=
  [.step (.suspend 0 (some 1)),
    .step (.submit ⟨"a", .object 76 2, ⟨0, none, none⟩, ⟨[], [], [], none⟩⟩),
    .step .processDetached]

/-- The flush runs no method by its name, unless someone asks for the helper first: then it runs the one that
is found. -/
theorem no_stale_handles_queuedFlush :
    let s₀ := start .withHelper {} .localProcess
    let ended := queuedFlush.map ((id : Debuggee → Debuggee), ·)
    let asked := ended ++ [(id, .step (.available ⟨0, none, none⟩))]
    let s := s₀.playUnder ended
    let s' := s₀.playUnder asked
    ((∀ x ∈ s.exchangesSince (s.after .turn), x.1.isInvocation = false) ∧
      (s.after .turn).completions =
        s.completions ++ s.next.map (Request.alone s.link.debuggee.displays)) ∧
    ∃ x ∈ s'.exchangesSince (s'.after .turn), ∃ helper thread args,
      x.1 = .invokeStatic thread helper.owner helper.method args ∧
        FoundSince (s₀.stepsUnder asked) helper := by
  intro s₀ ended asked s s'
  obtain ⟨-, hended⟩ := no_stale_handles .withHelper {} .localProcess ended
  obtain ⟨-, hasked⟩ := no_stale_handles .withHelper {} .localProcess asked
  have hquiet : ∀ x ∈ s.exchangesSince (s.after .turn), x.1.isInvocation = false := by
    decide +kernel
  have hruns : ¬∀ x ∈ s'.exchangesSince (s'.after .turn), x.1.isInvocation = false := by
    decide +kernel
  constructor
  · rcases hended _ _ rfl (by decide +kernel) with
      ⟨x, hx, helper, thread, args, hcall, -⟩ | ⟨-, -, u, done, -, hdone, -, hall⟩
    · have hnone := hquiet x hx
      rw [hcall] at hnone
      cases hnone
    · refine ⟨hquiet, ?_⟩
      rw [hall (by decide +kernel)] at hdone
      exact hdone
  · rcases hasked _ _ rfl (by decide +kernel) with hrun | ⟨hnone, -⟩
    · exact hrun
    · exact absurd hnone hruns

end BatchStringify.Session
