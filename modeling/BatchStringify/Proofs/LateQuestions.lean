import BatchStringify.Proofs.Attachment

/-!
# Questions from scopes that have ended

The scope of a question is never looked at but for its thread: whether it is still valid makes no difference to the
answer or to what is asked of the debuggee (`askProbe_suspensions`). So a question that comes late, from a stop under
an attachment that was detached, is asked like any other. After the end of the debuggee was reported it looks for the
helper once more, and the next attachment gets the answer (`late_question_counts`). Only a question without a thread
is spared, and one under settings without batches.
-/

namespace BatchStringify

section Inquiry

variable {settings : DebuggerSettings} {context : Context} {probe probe' : Probe}
  {made : List (Call × Outcome)}

theorem LookUp.made_ne_nil {thread : ThreadId} {loader : Option ObjectId}
    (h : LookUp settings thread loader made probe) : made ≠ [] := by
  cases h <;> exact List.cons_ne_nil _ _

/-- A question calls the debuggee exactly if it has to be answered for the first time, from a thread, over a local
connection. -/
theorem Inquiry.made_ne_nil_iff (h : Inquiry settings context probe made probe') :
    made ≠ [] ↔ probe = .unknown ∧ settings.batchEvaluation = true ∧
      context.connection = .localProcess ∧ context.scope.thread.isSome = true := by
  constructor
  · intro hmade
    obtain ⟨on, near, thread, unknown, -⟩ := h.of_made hmade
    exact ⟨unknown, on, near, thread⟩
  · rintro ⟨unknown, on, near, thread⟩
    cases h with
    | off off => rw [off] at on; cases on
    | known known => exact absurd unknown known
    | remote on remote => rw [remote] at near; cases near
    | threadless near threadless => rw [threadless] at thread; cases thread
    | lookUp on near thread_eq lookUp => exact lookUp.made_ne_nil

/-- Nothing is known after a question exactly if nothing was known before and nothing could be found out. -/
theorem Inquiry.eq_unknown_iff (h : Inquiry settings context probe made probe') :
    probe' = .unknown ↔ probe = .unknown ∧ (settings.batchEvaluation = false ∨
      context.connection = .localProcess ∧ context.scope.thread = none) := by
  cases h with
  | off off => simp [off]
  | known known => simp [known]
  | remote on remote => simp [on, remote]
  | threadless near threadless => simp [near, threadless]
  | lookUp on near thread_eq lookUp => simp [on, thread_eq, lookUp.ne_unknown]

end Inquiry

namespace Session

variable (s : Session)

/-- The answer to a question, and what is called for it, is the same whatever has become of the scopes. -/
theorem askProbe_suspensions (suspensions : Suspensions) (context : Context) :
    ({ s with suspensions := suspensions } : Session).askProbe context =
      ((s.askProbe context).1, { (s.askProbe context).2 with suspensions := suspensions }) := by
  unfold askProbe
  dsimp only
  split <;> rfl

/-- What a question does to the session in a run. -/
theorem Asks.question {s s' : Session} {step : Step} {context : Context} (h : Asks s step s')
    (query : s.query? step = some context) :
    (s'.exchanges ≠ s.exchanges ↔ s.probe = .unknown ∧ s.settings.batchEvaluation = true ∧
      context.connection = .localProcess ∧ context.scope.thread.isSome = true) ∧
    (s'.probe = .unknown ↔ s.probe = .unknown ∧ (s.settings.batchEvaluation = false ∨
      context.connection = .localProcess ∧ context.scope.thread = none)) := by
  obtain ⟨made, hmade, hinquiry⟩ := h.asked context query
  refine ⟨?_, hinquiry.eq_unknown_iff⟩
  rw [hmade, ← hinquiry.made_ne_nil_iff, ne_eq, List.append_right_eq_self]

variable (debuggee : Debuggee) (settings : DebuggerSettings) (connection : Connection)

/-- In every run, whatever becomes of the debuggee: a question is answered alike whether or not its scope is still
valid. It looks for the helper exactly if nothing is known, batches are to be evaluated, the connection is local and
the scope has a thread, and it leaves nothing known exactly if nothing was known and there was no thread, or no
interest in batches. What is known then is known until the next end of the debuggee is reported, and nothing else is
looked for until then, also under attachments that begin in the meantime. -/
theorem late_question_counts (run : List ((Debuggee → Debuggee) × Event)) :
    let s₀ := start debuggee settings connection
    let s := s₀.playUnder run
    (∀ suspensions context, ({ s with suspensions := suspensions } : Session).askProbe context =
      ((s.askProbe context).1, { (s.askProbe context).2 with suspensions := suspensions })) ∧
    ∀ before p after context, s₀.stepsUnder run = before ++ p :: after →
      p.1.query? p.2 = some context →
      ((p.1.after (.step p.2)).exchanges ≠ p.1.exchanges ↔
        p.1.probe = .unknown ∧ settings.batchEvaluation = true ∧
          context.connection = .localProcess ∧ context.scope.thread.isSome = true) ∧
      ((p.1.after (.step p.2)).probe = .unknown ↔
        p.1.probe = .unknown ∧ (settings.batchEvaluation = false ∨
          context.connection = .localProcess ∧ context.scope.thread = none)) ∧
      ((p.1.after (.step p.2)).probe ≠ .unknown → (∀ d ∈ after, d.2 ≠ .processDetached) →
        s.probe = (p.1.after (.step p.2)).probe ∧
        ∀ q ∈ after, q.1.probe = (p.1.after (.step p.2)).probe ∧
          (q.2.isSubmission = true → (q.1.after (.step q.2)).exchanges = q.1.exchanges)) := by
  intro s₀ s
  have hpasses : Passes s₀ (s₀.stepsUnder run) s := s₀.passes_playUnder run
  refine ⟨s.askProbe_suspensions, fun before p after context hsplit hquery => ?_⟩
  obtain ⟨-, hsettings⟩ := hpasses.settings
  have hp : p.1.settings = settings := hsettings p (by rw [hsplit]; simp)
  obtain ⟨hlooks, hunknown⟩ := (asks_perform p.1 p.2).question hquery
  rw [hp] at hlooks hunknown
  refine ⟨hlooks, hunknown, fun hknown present => ?_⟩
  rw [hsplit] at hpasses
  obtain ⟨hend, hlater⟩ := hpasses.split.2.known hknown present
  exact ⟨hend, fun q hq => ⟨(hlater q hq).1, (hlater q hq).2.2⟩⟩

/-- A stop under an attachment that ends with the debuggee, and then a question from that stop. After it the debuggee
comes back with a helper, it is attached again, and an object is submitted from the next stop. -/
def lateQuestion : List ((Debuggee → Debuggee) × Event) :=
  [(id, .step (.suspend 0 (some 1))), (id, .step (.detach 0)), (id, .step .processDetached),
    (id, .step (.available ⟨0, none, none⟩)), (fun _ => .withHelper, .step .attach),
    (id, .step (.suspend 1 (some 1))),
    (id, .step (.submit ⟨"a", .object 76 2, ⟨1, none, none⟩, ⟨[], [], [], none⟩⟩))]

/-- The late question looks for the helper where there is none any more, and so the object of the next attachment is not
gathered, and nothing is looked for on its behalf. -/
theorem late_question_counts_lateQuestion :
    let s := (start .plain {} .localProcess).playUnder lateQuestion
    let late := (start .plain {} .localProcess).playUnder (lateQuestion.take 3)
    late.suspensions.isValid ⟨1, some 1, 0⟩ = false ∧ late.probe = .unknown ∧
    s.probe = .unavailable ∧ s.hasPending = false ∧ s.exchanges.map (·.1) =
      [.findClass 1 "com.intellij.rt.debugger.BatchEvaluatorServer" none] := by
  intro s late
  let taken := (start .plain {} .localProcess).stepsUnder lateQuestion
  obtain ⟨-, hcounts⟩ := late_question_counts .plain {} .localProcess lateQuestion
  obtain ⟨-, hunknown, hkeeps⟩ := hcounts (taken.take 3) _ (taken.drop 4)
    ⟨⟨1, some 1, 0⟩, none, .localProcess⟩ rfl rfl
  have hafter : (taken.drop 4).map (·.2) = [.attach, .suspend 1 (some 1),
      .submit ⟨"a", .object 76 2, ⟨1, none, none⟩, ⟨[], [], [], none⟩⟩] := rfl
  have hpresent : ∀ d ∈ taken.drop 4, d.2 ≠ .processDetached := by
    intro d hd hdetached
    have hmem := List.mem_map_of_mem (f := Prod.snd) hd
    rw [hafter, hdetached] at hmem
    simp at hmem
  have hverdict : s.probe = .unavailable := by
    rw [(hkeeps (fun h => by cases (hunknown.1 h).2 with
      | inl off => cases off
      | inr threadless => cases threadless.2) hpresent).1]
    decide +kernel
  exact ⟨by decide +kernel, by decide +kernel, hverdict, by decide +kernel, by decide +kernel⟩

/-- So what is known about the helper can have been found out from a scope that had ended. -/
theorem not_spared_lateQuestion :
    ¬∀ run : List ((Debuggee → Debuggee) × Event),
      ∀ p ∈ (start .plain {} .localProcess).stepsUnder run, ∀ context,
        p.1.query? p.2 = some context → (p.1.after (.step p.2)).exchanges ≠ p.1.exchanges →
        (p.1.after (.step p.2)).probe ≠ .unknown →
          p.1.suspensions.isValid context.scope = true := by
  intro hall
  let late := (start .plain {} .localProcess).playUnder (lateQuestion.take 3)
  have hmem : (late, .available ⟨0, none, none⟩) ∈
      (start .plain {} .localProcess).stepsUnder lateQuestion :=
    List.mem_of_getElem? (i := 3) rfl
  have hvalid := hall lateQuestion _ hmem ⟨⟨1, some 1, 0⟩, none, .localProcess⟩ rfl
    (by decide +kernel) (by decide +kernel)
  exact absurd hvalid (by decide +kernel)

end Session

end BatchStringify
