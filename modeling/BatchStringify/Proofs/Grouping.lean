import BatchStringify.Proofs.Gathering
import BatchStringify.Proofs.Transparency

/-!
# Grouping makes no difference to what is delivered

Where a script runs the queue decides how the requests that are gathered are divided into batches. With a
helper that answers element by element this is all that it decides: however the same submissions are
grouped, the same requests are gathered, and each request is completed once, with what was due to it from
the outset (`grouping_irrelevant`).
-/

namespace BatchStringify

/-- Whether a step runs the queue. -/
def TopStep.isRun : TopStep → Bool
  | .run => true
  | _ => false

/-- Whether a step of a script runs the queue or is a steady step. -/
def TopStep.isSteady : TopStep → Bool
  | .run => true
  | .step inner => inner.isSteady
  | _ => false

namespace Outlook

/-- The requests that a script of plain steps submits, in their order. -/
def requests (o : Outlook) : List TopStep → List Request
  | [] => []
  | .step step :: rest => o.submitted step ++ (o.after step).requests rest
  | _ :: rest => o.requests rest

/-- Where the queue is run makes no difference to which requests are made. -/
theorem requests_withoutRuns (o : Outlook) (script : List TopStep) :
    o.requests (script.filter (!·.isRun)) = o.requests script := by
  induction script generalizing o with
  | nil => rfl
  | cons step rest ih =>
    cases step with
    | step inner => exact congrArg (o.submitted inner ++ ·) (ih (o.after inner))
    | _ => exact ih o

/-- A step submits at most one request, which has the next number. -/
theorem after_made (o : Outlook) (step : Step) :
    (o.after step).made = o.made + (o.submitted step).length ∧
      (o.submitted step).length ≤ 1 ∧ ∀ r ∈ o.submitted step, r.serial = o.made := by
  have hrequest : ∀ submission, (o.requestOf submission).toList.length ≤ 1 ∧
      ∀ r ∈ (o.requestOf submission).toList, r.serial = o.made := by
    intro submission
    unfold requestOf
    cases o.suspensions.scopes[submission.place.scope]? <;> simp
  cases step with
  | submit submission => exact ⟨rfl, hrequest submission⟩
  | submitRequest submission => exact ⟨rfl, hrequest submission⟩
  | invalidate index =>
    unfold after
    dsimp only
    split <;> simp [submitted]
  | _ => simp [after, submitted]

/-- The requests of a script are numbered in their order. -/
theorem requests_pairwise (o : Outlook) (script : List TopStep) :
    (o.requests script).Pairwise (·.serial < ·.serial) ∧
      ∀ r ∈ o.requests script, o.made ≤ r.serial := by
  induction script generalizing o with
  | nil => simp [requests]
  | cons step rest ih =>
    cases step with
    | step inner =>
      obtain ⟨hmade, hone, hserial⟩ := o.after_made inner
      obtain ⟨hrest, hle⟩ := ih (o.after inner)
      rw [hmade] at hle
      refine ⟨List.pairwise_append.2 ⟨?_, hrest, fun r hr r' hr' => ?_⟩, fun r hr => ?_⟩
      · match hs : o.submitted inner with
        | [] => exact .nil
        | [r] => exact List.pairwise_singleton _ r
        | _ :: _ :: _ =>
          rw [hs] at hone
          exact absurd hone (by simp)
      · have hpos := List.length_pos_of_mem hr
        have hr' := hle r' hr'
        rw [hserial r hr]
        omega
      · rcases List.mem_append.1 hr with hr | hr
        · exact Nat.le_of_eq (hserial r hr).symm
        · exact Nat.le_trans (Nat.le_add_right _ _) (hle r hr)
    | _ => exact ih o

end Outlook

namespace Session

/-- What a script delivers. -/
def delivered (script : List TopStep) (s : Session) : List (Request × Completion) :=
  (reports script s).flatMap StepReport.completions

variable {entry : Value → Reply.Entry} {o s : Session}

/-- What a script delivers is what its steps deliver in order. -/
theorem delivered_cons (step : TopStep) (rest : List TopStep) (s : Session) :
    delivered (step :: rest) s =
      (performTop step s.cleared).2.completions ++ delivered rest (performTop step s.cleared).2 := rfl

/-- A steady session whose journal was put away is still steady. -/
theorem Steady.cleared (h : Steady o s) : Steady o s.cleared := h.alter h.intact _ _ _

/-- The batches of a script are those of its steps in order. -/
theorem batches_cons (step : TopStep) (rest : List TopStep) (s : Session) :
    batches (step :: rest) s =
      (s.cleared.turns (s.cleared.eventsOf step)).filterMap batch? ++
        batches rest (performTop step s.cleared).2 := List.filterMap_append

/-- A run of the queue in a script delivers to all requests that waited what is due to them and flushes
all that was gathered, and the rest of the script starts with nothing that waits. -/
theorem Steady.run (elementwise : o.link.debuggee.Elementwise entry) (h : Steady o s)
    (calm : s.Calm) (rest : List TopStep) :
    let s' := s.cleared.runPending.2
    (s'.Calm ∧ Steady o s') ∧ (s'.outlook = s.outlook ∧ s'.probe = s.probe) ∧
    (s'.ledger.waiting = [] ∧ s'.batched = []) ∧
    (∃ done, delivered (.run :: rest) s = done ++ delivered rest s' ∧
      done.Perm (s.ledger.waiting.map (o.due entry))) ∧
    ∃ flushed, (batches (.run :: rest) s).flatten = flushed ++ (batches rest s').flatten ∧
      flushed.Perm s.batched := by
  intro s'
  obtain ⟨hcalm, hsteady, houtlook, hnone, done, hdone, hperm⟩ :=
    h.cleared.runPending elementwise calm.cleared
  obtain ⟨hprobe, hbatches⟩ := batched_runPending elementwise calm.cleared h.cleared
  refine ⟨⟨hcalm, hsteady⟩, ⟨houtlook, hprobe⟩, ⟨hnone, (List.append_eq_nil_iff.1 hnone).1⟩,
    ⟨done, ?_, hperm⟩, _, ?_, hbatches.symm⟩
  · rw [delivered_cons, performTop_run calm.cleared, hdone]
    rfl
  · rw [batches_cons, performTop_run calm.cleared, eventsOf, if_pos calm.cleared.isOpen,
      List.flatten_append]

/-- A script of steady steps that ends with a run delivers to every request, those that waited already
and those that it submits, what is due to it, and its batches are made of those that are gathered. -/
theorem Steady.script (elementwise : o.link.debuggee.Elementwise entry) (h : Steady o s)
    (calm : s.Calm) {script : List TopStep} (steady : ∀ step ∈ script, step.isSteady = true) :
    (delivered (script ++ [.run]) s).Perm
        ((s.ledger.waiting ++ s.outlook.requests script).map (o.due entry)) ∧
      (batches (script ++ [.run]) s).flatten.Perm
        (s.batched ++ o.gatheredOf s.probe (s.outlook.requests script)) := by
  induction script generalizing s with
  | nil =>
    obtain ⟨-, -, -, ⟨done, hdone, hperm⟩, flushed, hflushed, hperm'⟩ := h.run elementwise calm []
    have hnil : o.gatheredOf s.probe [] = [] := by simp [gatheredOf]
    rw [List.nil_append, hdone, hflushed, Outlook.requests, hnil, List.append_nil, List.append_nil]
    exact ⟨by simpa [delivered, reports] using hperm, by simpa [batches, scriptTurns] using hperm'⟩
  | cons step rest ih =>
    have hrest : ∀ step ∈ rest, step.isSteady = true :=
      fun step hs => steady step (List.mem_cons_of_mem _ hs)
    have hfirst := steady step List.mem_cons_self
    rw [List.cons_append]
    cases step with
    | run =>
      obtain ⟨⟨hcalm, hsteady⟩, ⟨houtlook, hprobe⟩, ⟨hnone, hempty⟩, ⟨done, hdone, hperm⟩,
        flushed, hflushed, hperm'⟩ := h.run elementwise calm (rest ++ [.run])
      obtain ⟨hdelivered, hbatches⟩ := ih hsteady hcalm hrest
      rw [hnone, houtlook, List.nil_append] at hdelivered
      rw [hempty, hprobe, houtlook, List.nil_append] at hbatches
      rw [hdone, hflushed, List.map_append]
      exact ⟨hperm.append hdelivered, hperm'.append hbatches⟩
    | step inner =>
      -- nothing is delivered now, and what the step submits waits for a later run
      have hplain := Step.isPlain_of_isSteady hfirst
      have hp := prepares_step calm.toReady.cleared (Step.isPreparation_of_isPlain hplain)
      have hcalm := hp.calm hplain (sound_after _ calm.cleared.sound) calm.cleared
      obtain ⟨hdelivered, hflushed⟩ := ih (h.cleared.step calm.cleared hfirst) hcalm hrest
      have hstep : (performTop (.step inner) s.cleared).2 = s.cleared.after (.step inner) :=
        performTop_eq_play (.step inner) s.cleared
      rw [delivered_cons, batches_cons, hstep, hp.completions]
      rw [hp.outlook] at hdelivered hflushed
      constructor
      · refine hdelivered.trans (List.Perm.map _ ?_)
        have hwaiting := hp.waiting.append_right ((s.outlook.after inner).requests rest)
        rwa [List.append_assoc] at hwaiting
      · exact hflushed.trans (batched_step h.cleared calm.cleared hfirst _)
    | _ => cases hfirst

/-- A session is steady at the start. -/
theorem steady_start {debuggee : Debuggee} (numbered : debuggee.Numbered)
    (settings : DebuggerSettings) (connection : Connection) :
    Steady (start debuggee settings connection) (start debuggee settings connection) where
  toGrounded := grounded_start numbered settings connection
  intact := ⟨rfl, fun _ hb => List.mem_singleton.1 hb⟩

/-- Two scripts of stops and plain submissions that differ in nothing but their runs of the queue and end
with a run deliver the same: each request that they submit is completed once, with what is due to it. In
both the same requests are gathered, so that only the division into batches is left to depend on the runs.
-/
theorem grouping_irrelevant (debuggee : Debuggee) (settings : DebuggerSettings)
    (connection : Connection) (entry : Value → Reply.Entry)
    (elementwise : debuggee.Elementwise entry) (numbered : debuggee.Numbered)
    (first second : List TopStep) (steady : ∀ step ∈ first ++ second, step.isSteady = true)
    (same : first.filter (!·.isRun) = second.filter (!·.isRun)) :
    let s := start debuggee settings connection
    (delivered (first ++ [.run]) s).Perm (delivered (second ++ [.run]) s) ∧
      (delivered (first ++ [.run]) s).Perm ((s.outlook.requests first).map (s.due entry)) ∧
      (s.outlook.requests first).Pairwise (·.serial < ·.serial) ∧
      (batches (first ++ [.run]) s).flatten.Perm (batches (second ++ [.run]) s).flatten := by
  intro s
  have hscript : ∀ script : List TopStep, (∀ step ∈ script, step.isSteady = true) →
      (delivered (script ++ [.run]) s).Perm ((s.outlook.requests script).map (s.due entry)) ∧
        (batches (script ++ [.run]) s).flatten.Perm
          (s.gatheredOf .unknown (s.outlook.requests script)) := fun script hsteady =>
    (steady_start numbered settings connection).script elementwise
      (calm_start debuggee settings connection) hsteady
  have hrequests : s.outlook.requests second = s.outlook.requests first := by
    rw [← s.outlook.requests_withoutRuns second, ← same, s.outlook.requests_withoutRuns]
  obtain ⟨hfirst, hbatches⟩ := hscript first fun step hs => steady step (List.mem_append_left _ hs)
  obtain ⟨hsecond, hbatches'⟩ :=
    hscript second fun step hs => steady step (List.mem_append_right _ hs)
  rw [hrequests] at hsecond hbatches'
  exact ⟨hfirst.trans hsecond.symm, hfirst, (s.outlook.requests_pairwise first).1,
    hbatches.trans hbatches'.symm⟩

/-- A canned helper with one reply for all calls answers element by element. -/
theorem elementwise_withHelper : Debuggee.withHelper.Elementwise
    (CannedReply.entryFor (Table.empty.put "13" "java.lang.IllegalStateException") .empty) := by
  intro handler hh n elements
  obtain rfl := Option.some.inj hh
  cases n <;> rfl

/-- Two stops, the second one without a thread, and three objects. -/
def threeObjects (between : List TopStep) : List TopStep :=
  [.step (.suspend 0 (some 1)), .step (.suspend 0 none),
    .step (.submit ⟨"a", .object 76 2, ⟨0, none, none⟩, ⟨[], [], [], none⟩⟩)] ++ between ++
  [.step (.submit ⟨"b", .object 76 13, ⟨0, none, none⟩, ⟨[], [], [], none⟩⟩),
    .step (.submit ⟨"c", .object 76 3, ⟨1, none, none⟩, ⟨[], [], [], none⟩⟩)]

theorem grouping_irrelevant_threeObjects :
    let s := start .withHelper {} .localProcess
    (batches (threeObjects [] ++ [.run]) s).map (·.map (·.label)) = [["a", "b"], ["c"]] ∧
      (batches (threeObjects [.run] ++ [.run]) s).map (·.map (·.label)) = [["a"], ["b"], ["c"]] ∧
      (delivered (threeObjects [] ++ [.run]) s).length = 3 ∧
      (delivered (threeObjects [] ++ [.run]) s).Perm (delivered (threeObjects [.run] ++ [.run]) s) := by
  refine ⟨by decide +kernel, by decide +kernel, by decide +kernel, ?_⟩
  exact (grouping_irrelevant .withHelper {} .localProcess _ elementwise_withHelper
    (by decide +kernel) (threeObjects []) (threeObjects [.run]) (by decide) rfl).1

end Session

end BatchStringify
