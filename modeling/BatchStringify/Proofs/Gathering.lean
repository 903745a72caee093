import BatchStringify.Proofs.Steady

/-!
# Which requests are gathered

A steady session gathers objects into batches from the first one on that was seen with a thread, since
that is when it learns of its helper. Runs of the queue have no part in this: they hand out the batches
that were gathered so far, whatever their number and size.
-/

namespace BatchStringify.Session

/-- The requests that wait in batches. -/
def batched (s : Session) : List Request := s.pending.entries.flatMap (·.2)

/-- The batch that the next task flushes, if it is a flush. -/
def batch? (s : Session) : Option (List Request) :=
  match s.queue.waiting.head? with
  | some (.flush _) => some s.next
  | _ => none

/-- The batches that are flushed in the course of a script, in their order. -/
def batches (script : List TopStep) (s : Session) : List (List Request) :=
  (scriptTurns script s).filterMap batch?

/-- Of the requests that come in from now on, those that are gathered: the objects, if the probe knows
where the helper is, and else the objects from the first one with a thread on. -/
def gatheredOf (o : Session) (probe : Probe) (requests : List Request) : List Request :=
  if o.gathers then
    (requests.filter (·.value.objectId?.isSome)).dropWhile fun r =>
      probe = .unknown && r.context.scope.thread.isNone
  else []

variable {entry : Value → Reply.Entry} {o s : Session}

/-! ## Turns -/

/-- A turn hands out at most the batch that its task flushes, and the probe learns nothing by it. -/
theorem batched_turn (calm : s.Calm) :
    (s.after .turn).probe = s.probe ∧
      s.batched.Perm (s.batch?.getD [] ++ (s.after .turn).batched) := by
  cases hw : s.queue.waiting with
  | nil =>
    rw [after_turn_of_nil hw, batch?, hw]
    exact ⟨rfl, .refl _⟩
  | cons task rest =>
    have hr := reacts_turn hw (calm.tasks task (by rw [hw]; exact List.mem_cons_self))
    refine ⟨hr.probe, ?_⟩
    unfold batched batch?
    rw [hr.pending, hw]
    cases task with
    | flush context =>
      have hnext : s.next = (s.pending.find? context.scope.id).getD [] := next_of_cons hw
      dsimp only [List.head?_cons, Option.getD_some]
      rw [hnext]
      exact Table.flatMap_erase calm.sound.keys_nodup context.scope.id
    | individual request => exact .refl _
    | command command scope => exact .refl _

/-- Turns hand out batches one by one. -/
theorem batched_turns (n : Nat) (elementwise : o.link.debuggee.Elementwise entry) (calm : s.Calm)
    (h : Steady o s) :
    (s.play (List.replicate n .turn)).probe = s.probe ∧
      s.batched.Perm (((s.turns (List.replicate n .turn)).filterMap batch?).flatten ++
        (s.play (List.replicate n .turn)).batched) := by
  induction n generalizing s with
  | zero => exact ⟨rfl, .refl _⟩
  | succ n ih =>
    obtain ⟨hs, hnext⟩ := h.turn elementwise calm
    obtain ⟨hprobe, hfirst⟩ := batched_turn calm
    obtain ⟨hprobe', hrest⟩ := ih (hs.calm (sound_turn calm.sound) calm) hnext
    refine ⟨hprobe'.trans hprobe, hfirst.trans ?_⟩
    have hturns : ((s.turns (List.replicate (n + 1) .turn)).filterMap batch?).flatten =
        s.batch?.getD [] ++
          (((s.after .turn).turns (List.replicate n .turn)).filterMap batch?).flatten := by
      rw [List.replicate_succ, turns, List.filterMap_cons]
      cases s.batch? <;> rfl
    rw [hturns, List.append_assoc]
    exact hrest.append_left _

/-- A run of the queue hands out all batches. -/
theorem batched_runPending (elementwise : o.link.debuggee.Elementwise entry) (calm : s.Calm)
    (h : Steady o s) :
    s.runPending.2.probe = s.probe ∧
      s.batched.Perm ((s.turns (List.replicate s.runPending.1 .turn)).filterMap batch?).flatten := by
  have hplay : s.runPending.2 = s.play (List.replicate s.runPending.1 .turn) :=
    drain_eq_play s.work s
  obtain ⟨-, -, -, hnone, -⟩ := h.runPending elementwise calm
  obtain ⟨hprobe, hturns⟩ := batched_turns s.runPending.1 elementwise calm h
  have hempty : s.runPending.2.batched = [] := (List.append_eq_nil_iff.1 hnone).1
  rw [← hplay] at hprobe hturns
  rw [hempty, List.append_nil] at hturns
  exact ⟨hprobe, hturns⟩

/-! ## Submissions -/

theorem batched_join (s : Session) (request : Request) :
    (s.join request).batched.Perm (s.batched ++ [request]) := by
  unfold batched
  rw [pending_join]
  exact Table.flatMap_put _ _ _

theorem gatheredOf_cons_of_local {request : Request} (h : ¬request.value.objectId?.isSome)
    (probe : Probe) (rest : List Request) :
    o.gatheredOf probe (request :: rest) = o.gatheredOf probe rest := by
  simp [gatheredOf, h]

theorem gatheredOf_found (h : o.gathers = true) (rest : List Request) :
    o.gatheredOf o.found rest = rest.filter (·.value.objectId?.isSome) := by
  rw [gatheredOf, if_pos h]
  cases rest.filter (·.value.objectId?.isSome) <;> simp [o.found_ne_unknown]

/-- The answer of the probe tells whether an object is gathered, and what it knows then tells which later
ones are. -/
theorem Consulted.gatheredOf_cons {request : Request} {before probe : Probe} {answer : Bool}
    (h : Consulted o request.context before answer probe) (object : request.value.objectId?.isSome)
    (rest : List Request) :
    o.gatheredOf before (request :: rest) =
      (if answer then [request] else []) ++ o.gatheredOf probe rest := by
  cases h with
  | never probe gathers => simp [gatheredOf, gathers]
  | known gathers asked =>
    have hstop : (decide (before = .unknown) && request.context.scope.thread.isNone) = false := by
      by_cases hbefore : before = .unknown
      · obtain ⟨thread, ht⟩ := Option.isSome_iff_exists.1 (asked hbefore)
        simp [ht]
      · simp [hbefore]
    rw [gatheredOf_found gathers, gatheredOf, if_pos gathers, List.filter_cons_of_pos (by exact object),
      List.dropWhile_cons_of_neg (by simp [hstop])]
    rfl
  | unasked gathers unknown thread => simp [gatheredOf, gathers, object, unknown, thread]

theorem probe_invoke (s : Session) (task : Task) : (s.invoke task).probe = s.probe := by
  unfold invoke
  dsimp only
  split <;> rfl

theorem probe_join (s : Session) (request : Request) : (s.join request).probe = s.probe := by
  unfold join
  dsimp only
  split
  · rfl
  · exact probe_invoke _ _

/-- A submitted request is gathered now or counts among those that are not. -/
theorem batched_submit (h : Steady o s) (hasSender : s.queue.hasSender = true)
    {request : Request} (own : request.context.connection = s.connection) (rest : List Request) :
    ((s.submit request).batched ++ o.gatheredOf (s.submit request).probe rest).Perm
      (s.batched ++ o.gatheredOf s.probe (request :: rest)) := by
  have hrecord : Steady o (s.record (.accepted request)) := h.alter h.intact _ _ _
  rw [submit_of_hasSender hasSender]
  by_cases hobject : request.value.objectId?.isSome
  · obtain ⟨-, hc⟩ := hrecord.askProbe own
    obtain ⟨-, hpending⟩ := (s.record (.accepted request)).askProbe_keeps request.context
    rw [accept_of_object hobject]
    rw [show s.probe = (s.record (.accepted request)).probe from rfl, hc.gatheredOf_cons hobject rest]
    generalize (s.record (.accepted request)).askProbe request.context = asked at hpending ⊢
    obtain ⟨answer, s'⟩ := asked
    have hbatched : s'.batched = s.batched := by
      rw [batched, show s'.pending = s.pending from hpending]
      rfl
    cases answer with
    | true =>
      rw [if_pos rfl, if_pos rfl, probe_join, ← List.append_assoc, ← hbatched]
      exact (s'.batched_join request).append_right _
    | false =>
      rw [if_neg Bool.false_ne_true, if_neg Bool.false_ne_true, probe_invoke, List.nil_append, batched,
        pending_invoke, ← batched, hbatched]
  · rw [accept_of_local (Option.not_isSome_iff_eq_none.1 hobject), gatheredOf_cons_of_local hobject,
      batched, pending_invoke, probe_invoke]
    exact .refl _

/-- A steady step gathers those of its requests that are to be gathered. -/
theorem batched_step (h : Steady o s) (calm : s.Calm) {step : Step}
    (steady : step.isSteady = true) (rest : List Request) :
    ((s.after (.step step)).batched ++ o.gatheredOf (s.after (.step step)).probe rest).Perm
      (s.batched ++ o.gatheredOf s.probe (s.outlook.submitted step ++ rest)) := by
  have hsubmission : ∀ submission : Submission,
      (submission.sink.isPlain && submission.place.connection.isNone) = true →
      let s' := ((withRequest submission fun request => changing (·.submit request)).run.run s).2
      (s'.batched ++ o.gatheredOf s'.probe rest).Perm
        (s.batched ++ o.gatheredOf s.probe ((s.outlook.requestOf submission).toList ++ rest)) := by
    intro submission hplain s'
    have own := Option.isNone_iff_eq_none.1 (Bool.and_eq_true_iff.1 hplain).2
    show (((withRequest submission fun request => changing (·.submit request)).run.run s).2.batched ++
      o.gatheredOf ((withRequest submission fun request =>
        changing (·.submit request)).run.run s).2.probe rest).Perm _
    rw [run_withRequest, makeRequest_eq]
    cases hr : s.outlook.requestOf submission with
    | none => exact .refl _
    | some request =>
      have hmade : Steady o { s with made := s.made + 1 } := h.alter h.intact _ _ _
      have hown : request.context.connection = s.connection := connection_of_requestOf hr own
      exact batched_submit hmade calm.hasSender hown rest
  cases step with
  | submit submission => exact hsubmission submission steady
  | submitRequest submission => exact hsubmission submission steady
  | attach => exact .refl _
  | suspend attachment thread => exact .refl _
  | failRelease error => exact .refl _
  | _ => cases steady

end BatchStringify.Session
