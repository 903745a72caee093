import BatchStringify.Proofs.Calm.Steps

/-!
# Batches make no difference to what is delivered

Two sessions go through the same script, one with batches and one without. They are kept alike: they
have the same outlook, and the same requests wait in both, in whatever order and tasks. Since a run
of the queue settles all requests that wait and the outlook decides what they come to, each run
delivers the same completions in both sessions.
-/

namespace BatchStringify

/-- Whether a step of a script runs the queue or only prepares for a run. -/
def TopStep.isPlain : TopStep → Bool
  | .run => true
  | .step inner => inner.isPlain
  | _ => false

namespace Session

/-- The completions in the journal of a report. -/
def StepReport.completions (report : StepReport) : List (Request × Completion) :=
  report.journal.filterMap Entry.completed?

/-- Whether no flush waits in a session, and none will be sent. -/
structure Single (s : Session) : Prop where
  settings : s.settings.batchEvaluation = false
  tasks : ∀ task ∈ s.queue.waiting, task.flushScope? = none

/-- Two calm sessions, the second one without batches, that look alike and for which the same requests
wait. -/
structure Alike (b p : Session) : Prop where
  first : b.Calm
  second : p.Calm
  single : p.Single
  outlook : b.outlook = p.outlook
  waiting : b.ledger.waiting.Perm p.ledger.waiting

variable {s b p : Session}

/-- Without flushes no helper is asked, so nothing need be faithful. -/
theorem Single.faithfulAt (h : s.Single) : s.FaithfulAt := by
  intro context hhead
  have hnone := h.tasks (.flush context) (List.mem_of_mem_head? hhead)
  cases hnone

/-- With batches turned off no flush is ever sent. -/
theorem Single.sends {s' : Session} (hs : Sends s s') (h : s.Single) : s'.Single where
  settings := by
    rw [hs.settings]
    exact h.settings
  tasks := by
    intro task ht
    rcases hs.tasks task ht with ht | ⟨-, hf⟩
    · exact h.tasks task ht
    · exact hf h.settings

/-- Turns keep a calm session without flushes, since no request sends a task. -/
theorem Single.turns (single : s.Single) (h : s.Calm) (n : Nat) :
    ∀ t ∈ s.turns (List.replicate n .turn), t.FaithfulAt := by
  induction n generalizing s with
  | zero => exact fun t ht => by cases ht
  | succ n ih =>
    have hs := settles_turn h (nextGives_alone h single.faithfulAt)
    intro t ht
    rcases List.mem_cons.1 ht with rfl | ht
    · exact single.faithfulAt
    · refine ih ⟨?_, ?_⟩ (hs.calm (sound_turn h.sound) h) t ht
      · rw [hs.settings]
        exact single.settings
      · rw [hs.queue]
        exact fun task ht => single.tasks task (List.mem_of_mem_tail ht)

theorem Ready.cleared (h : s.Ready) : s.cleared.Ready :=
  ⟨h.isOpen, h.hasSender, h.sound.of_eq rfl rfl rfl rfl rfl, h.tasks⟩

/-- A session whose journal was put away is still calm. -/
theorem Calm.cleared (h : s.Calm) : s.cleared.Calm := ⟨h.toReady.cleared, h.sinks⟩

/-- Sessions that are alike stay so without their journals. -/
theorem Alike.cleared (h : Alike b p) : Alike b.cleared p.cleared where
  first := h.first.cleared
  second := h.second.cleared
  single := ⟨h.single.settings, h.single.tasks⟩
  outlook := h.outlook
  waiting := h.waiting

/-- Plain steps keep two sessions alike and deliver nothing. -/
theorem Alike.step (h : Alike b p) {step : Step} (plain : step.isPlain = true) :
    Alike (b.after (.step step)) (p.after (.step step)) ∧
      (b.after (.step step)).completions = b.completions ∧
      (p.after (.step step)).completions = p.completions := by
  have hb := prepares_step h.first.toReady (Step.isPreparation_of_isPlain plain)
  have hp := prepares_step h.second.toReady (Step.isPreparation_of_isPlain plain)
  refine ⟨⟨?_, ?_, ?_, ?_, ?_⟩, hb.completions, hp.completions⟩
  · -- first
    exact hb.calm plain (sound_after _ h.first.sound) h.first
  · -- second
    exact hp.calm plain (sound_after _ h.second.sound) h.second
  · -- single
    exact h.single.sends hp.sends
  · -- outlook
    rw [hb.outlook, hp.outlook, h.outlook]
  · -- waiting
    refine hb.waiting.trans ?_
    rw [h.outlook]
    exact (h.waiting.append_right _).trans hp.waiting.symm

/-- A run of the queue keeps two sessions alike and delivers the same completions in both. -/
theorem Alike.run (h : Alike b p)
    (faithful : ∀ t ∈ b.turns (List.replicate b.runPending.1 .turn), t.FaithfulAt) :
    Alike b.runPending.2 p.runPending.2 ∧
      ∃ done done', b.runPending.2.completions = b.completions ++ done ∧
        p.runPending.2.completions = p.completions ++ done' ∧ done.Perm done' := by
  obtain ⟨hcb, hob, -, -, hwb, done, hdone, hperm⟩ :=
    calm_runPending h.first (settles_faithful _ h.first faithful)
  obtain ⟨hcp, hop, hsp, hqp, hwp, done', hdone', hperm'⟩ :=
    calm_runPending h.second (settles_faithful _ h.second (h.single.turns h.second _))
  refine ⟨⟨hcb, hcp, ⟨?_, ?_⟩, ?_, ?_⟩, done, done', hdone, hdone', ?_⟩
  · rw [hsp]
    exact h.single.settings
  · rw [hqp]
    exact fun _ ht => by cases ht
  · rw [hob, hop, h.outlook]
  · rw [hwb, hwp]
  · -- both runs settle all requests that wait, from the same outlook
    refine hperm.trans (List.Perm.trans ?_ hperm'.symm)
    rw [h.outlook]
    exact p.outlook.settle_perm _ h.waiting

theorem performTop_run (h : s.Calm) : (performTop .run s).2 = s.runPending.2 := by
  simp [performTop, h.isOpen]

/-- The steps of a script keep two sessions alike and deliver the same completions in both. -/
theorem Alike.top (h : Alike b p) {step : TopStep} (plain : step.isPlain = true)
    (faithful : ∀ t ∈ b.turns (b.eventsOf step), t.FaithfulAt) :
    Alike (performTop step b).2 (performTop step p).2 ∧
      ∃ done done', (performTop step b).2.completions = b.completions ++ done ∧
        (performTop step p).2.completions = p.completions ++ done' ∧ done.Perm done' := by
  cases step with
  | run =>
    rw [eventsOf, if_pos h.first.isOpen] at faithful
    rw [performTop_run h.first, performTop_run h.second]
    exact h.run faithful
  | step step =>
    have heq : ∀ s : Session, (performTop (.step step) s).2 = s.after (.step step) :=
      fun s => performTop_eq_play (.step step) s
    rw [heq b, heq p]
    obtain ⟨halike, hb, hp⟩ := h.step plain
    exact ⟨halike, [], [], by simpa using hb, by simpa using hp, .refl _⟩
  | _ => cases plain

theorem reports_cons (step : TopStep) (rest : List TopStep) (s : Session) :
    reports (step :: rest) s =
      (s.reportStep step).1 :: reports rest (performTop step s.cleared).2 := rfl

theorem completions_reportStep (step : TopStep) (s : Session) :
    (s.reportStep step).1.completions = (performTop step s.cleared).2.completions := rfl

/-- Alike sessions deliver the same completions in every step of a script. -/
theorem Alike.reports (h : Alike b p) {script : List TopStep}
    (plain : ∀ step ∈ script, step.isPlain = true)
    (faithful : ∀ t ∈ scriptTurns script b, t.FaithfulAt) :
    List.Forall₂ (fun first second : StepReport => first.completions.Perm second.completions)
      (reports script b) (reports script p) := by
  induction script generalizing b p with
  | nil => exact .nil
  | cons step rest ih =>
    obtain ⟨halike, done, done', hb, hp, hperm⟩ :=
      h.cleared.top (plain step List.mem_cons_self) fun t ht =>
        faithful t (List.mem_append_left _ ht)
    have hrest := ih halike (fun s hs => plain s (List.mem_cons_of_mem _ hs)) fun t ht =>
      faithful t (List.mem_append_right _ ht)
    rw [reports_cons, reports_cons]
    refine .cons ?_ hrest
    rw [completions_reportStep, completions_reportStep, hb, hp]
    exact hperm

/-- A session is calm at the start. -/
theorem calm_start (debuggee : Debuggee) (settings : DebuggerSettings) (connection : Connection) :
    (start debuggee settings connection).Calm where
  isOpen := rfl
  hasSender := rfl
  sound := sound_start debuggee settings connection
  tasks := fun _ ht => by cases ht
  sinks := fun _ hr => by cases hr

/-- A script of stops, submissions with plain sinks, changes to the debuggee and runs of the queue
delivers the same completions in every step with batches as without, if the helper is faithful
whenever it is asked. -/
theorem batching_transparent (debuggee : Debuggee) (settings : DebuggerSettings)
    (connection : Connection) (script : List TopStep)
    (plain : ∀ step ∈ script, step.isPlain = true)
    (faithful : ∀ t ∈ scriptTurns script
      (start debuggee { settings with batchEvaluation := true } connection), t.FaithfulAt) :
    List.Forall₂ (fun first second : StepReport => first.completions.Perm second.completions)
      (reports script (start debuggee { settings with batchEvaluation := true } connection))
      (reports script (start debuggee { settings with batchEvaluation := false } connection)) := by
  have halike : Alike (start debuggee { settings with batchEvaluation := true } connection)
      (start debuggee { settings with batchEvaluation := false } connection) :=
    ⟨calm_start _ _ _, calm_start _ _ _, ⟨rfl, fun _ ht => by cases ht⟩, rfl, .refl _⟩
  exact halike.reports plain faithful

/-- A stop with three values, of which two go to a helper that knows their texts. -/
def faithfulScript : List TopStep :=
  [.step (.setHandler fun _ elements =>
      if elements = [.object 76 2, .object 76 13] then
        CannedReply.carry [.success "str#2", .failure "java.lang.IllegalStateException"]
      else .collected),
    .step (.suspend 0 (some 1)),
    .step (.submit ⟨"a", .object 76 2, ⟨0, none, none⟩, ⟨[], [], [], none⟩⟩),
    .step (.submit ⟨"b", .int 7, ⟨0, none, none⟩, ⟨[], [], [], none⟩⟩),
    .step (.submit ⟨"c", .object 76 13, ⟨0, none, none⟩, ⟨[], [], [], none⟩⟩), .run]

theorem batching_transparent_faithfulScript :
    (reports faithfulScript (start .withHelper {} .localProcess)).map (·.completions.length) =
      [0, 0, 0, 0, 0, 3] ∧
    List.Forall₂ (fun first second : StepReport => first.completions.Perm second.completions)
      (reports faithfulScript (start .withHelper { batchEvaluation := true } .localProcess))
      (reports faithfulScript (start .withHelper { batchEvaluation := false } .localProcess)) := by
  refine ⟨by decide +kernel, ?_⟩
  refine batching_transparent .withHelper {} .localProcess faithfulScript (by decide) fun t ht => ?_
  have hcheck : ∀ t ∈ scriptTurns faithfulScript (start .withHelper {} .localProcess),
      t.link.debuggee.FaithfulTo (t.next.map (·.value)) := by decide +kernel
  exact fun _ _ _ _ _ => hcheck t ht

end Session

end BatchStringify
