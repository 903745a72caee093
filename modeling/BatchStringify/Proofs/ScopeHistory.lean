import BatchStringify.Proofs.Moves

/-!
# The history of the scopes

A scope ends when it is invalidated or when its attachment is detached, by the embedder, in a command or by
a sink. The events of a run and its journal tell of all these calls (`scopeCalls`), and the scopes of a
session are what the calls so far make of them (`suspensions_play`), whatever else happens.
-/

namespace BatchStringify.Session

/-- The calls about scopes that the embedder makes in an event by itself. -/
def Event.scopeCalls : Event → List ScopeCall
  | .step inner => inner.scopeCalls
  | _ => []

/-- The calls about scopes in an event: those of the embedder and those that the journal tells of. -/
def scopeCallsAt (s : Session) (event : Event) : List ScopeCall :=
  event.scopeCalls ++
    ((s.after event).link.journal.drop s.link.journal.length).flatMap Entry.scopeCalls

/-- The calls about scopes in a run. -/
def scopeCalls (s : Session) : List Event → List ScopeCall
  | [] => []
  | event :: rest => s.scopeCallsAt event ++ (s.after event).scopeCalls rest

/-- Whether the journal between two sessions tells how the scopes changed. -/
def Traced (s s' : Session) : Prop :=
  ∃ more, s'.link.journal = s.link.journal ++ more ∧
    s'.suspensions = (more.flatMap Entry.scopeCalls).foldl Suspensions.call s.suspensions

instance : Std.Refl Traced := ⟨fun s => ⟨[], by simp, rfl⟩⟩

instance : IsTrans Session Traced where
  trans := by
    rintro s s' s'' ⟨more, hmore, hscopes⟩ ⟨more', hmore', hscopes'⟩
    refine ⟨more ++ more', ?_, ?_⟩
    · rw [hmore', hmore, List.append_assoc]
    · rw [hscopes', hscopes, List.flatMap_append, List.foldl_append]

/-- An entry that tells of no call about scopes traces nothing. -/
theorem traced_record (s : Session) {entry : Entry} (h : entry.scopeCalls = []) :
    Traced s (s.record entry) := by
  refine ⟨[entry], rfl, ?_⟩
  simp [h, record, withLink]

theorem traced_askProbe (s : Session) (context : Context) :
    Traced s (s.askProbe context).2 := by
  unfold askProbe
  split
  · exact (reacts_withLink (Probe.ask_grows s.settings context s.probe s.link)).told
  · exact Std.Refl.refl s

/-- Sending a task is no call about scopes. -/
theorem traced_invoke (s : Session) (task : Task) : Traced s (s.invoke task) := by
  have hsent : Traced s { s with queue := s.queue.send task } := ⟨[], by simp, rfl⟩
  unfold invoke
  dsimp only
  split
  · exact hsent
  · exact IsTrans.trans _ _ _ hsent (traced_record _ rfl)

/-- Nor is a submission. -/
theorem traced_submit (s : Session) (request : Request) : Traced s (s.submit request) :=
  along_submit (fun s _ => traced_record s rfl) (fun s _ => traced_record s rfl) traced_askProbe
    traced_invoke (fun _ _ => ⟨[], by simp, rfl⟩) s request

/-- A move calls scopes only through the sinks that its completions tell of. -/
theorem traced_move {s s' : Session} (move : Move s s') : Traced s s' := by
  cases move with
  | reacts reacts => exact reacts.told
  | ask context => exact traced_askProbe s context
  | make n => exact ⟨[], by simp, rfl⟩
  | submit request serial_eq scope_mem => exact traced_submit _ request

/-- A step of a command is told by its report if it makes a call about scopes. -/
theorem traced_stepped (s : Session) (command : String) (step : Step) :
    Traced s (s.stepped command step) := by
  unfold stepped
  rcases perform_cases step s with ⟨c, result, hc, hr⟩ | ⟨rfl, hr⟩ | ⟨hc, -, hmoves⟩
  · rw [hr]
    refine ⟨[.report (.performed command step result)], rfl, ?_⟩
    simp [Entry.scopeCalls, hc, emit, record, withLink]
  · rw [hr]
    have hdetached : Traced s s.processDetached := ⟨_, rfl, rfl⟩
    exact IsTrans.trans _ _ _ hdetached (traced_record _ rfl)
  · have hstep : Traced s ((perform step).run.run s).2 := hmoves.lift fun _ _ => traced_move
    rcases hr : (perform step).run.run s with ⟨payload | result, s'⟩
    · rw [hr] at hstep
      exact hstep
    · rw [hr] at hstep
      exact IsTrans.trans _ _ _ hstep (traced_record _ hc)

/-- So the scopes follow from what the journal tells of an event. -/
theorem Traced.suspensions_eq {s : Session} {event : Event} (h : Traced s (s.after event))
    (quiet : event.scopeCalls = []) :
    (s.after event).suspensions = (s.scopeCallsAt event).foldl Suspensions.call s.suspensions := by
  obtain ⟨more, hmore, hscopes⟩ := h
  rw [scopeCallsAt, quiet, List.nil_append, hmore, List.drop_left, hscopes]

/-- Every event does to the scopes what its calls do, and nothing else. -/
theorem suspensions_after (s : Session) (event : Event) :
    (s.after event).suspensions =
      (s.scopeCallsAt event).foldl Suspensions.call s.suspensions := by
  cases event with
  | step step =>
    rcases perform_cases step s with ⟨c, result, hc, hr⟩ | ⟨rfl, -⟩ | ⟨hc, -, hmoves⟩
    · -- the journal does not tell of what the embedder did itself
      have hafter : s.after (.step step) = { s with suspensions := s.suspensions.call c } := by
        rw [after, hr]
      rw [scopeCallsAt, hafter, Event.scopeCalls, hc]
      simp
    · exact Traced.suspensions_eq ⟨_, rfl, rfl⟩ rfl
    · have hstep : Traced s ((perform step).run.run s).2 := hmoves.lift fun _ _ => traced_move
      exact Traced.suspensions_eq hstep hc
  | turn =>
    refine Traced.suspensions_eq ?_ rfl
    cases hw : s.queue.waiting with
    | nil =>
      rw [after_turn_of_nil hw]
      exact Std.Refl.refl s
    | cons task rest =>
      cases task with
      | command command scope =>
        have hcommand : Traced (s.taken rest) (s.after .turn) :=
          along_turn_command hw (fun t _ _ => traced_record t rfl)
            (fun t _ _ => traced_record t rfl) fun p _ name => traced_stepped p.1 name p.2
        exact hcommand
      | flush context => exact (reacts_turn hw rfl).told
      | individual request => exact (reacts_turn hw rfl).told
  | dropSender =>
    have hsender : Traced s s.dropOwnSender := by
      unfold dropOwnSender
      split <;> exact ⟨[], by simp, rfl⟩
    exact Traced.suspensions_eq hsender rfl
  | dropQueue => exact Traced.suspensions_eq ⟨[], (List.append_nil _).symm, rfl⟩ rfl

/-- The scopes of a session are what the calls so far make of them. -/
theorem suspensions_play (events : List Event) (s : Session) :
    (s.play events).suspensions = (s.scopeCalls events).foldl Suspensions.call s.suspensions := by
  induction events generalizing s with
  | nil => rfl
  | cons event rest ih =>
    rw [play_cons, ih, suspensions_after, scopeCalls, List.foldl_append]

/-- A scope that has ended stays so. -/
theorem isValid_play {s : Session} {scope : Scope} (h : s.suspensions.isValid scope = false)
    (events : List Event) : (s.play events).suspensions.isValid scope = false := by
  rw [Bool.eq_false_iff] at h ⊢
  intro hv
  rw [suspensions_play] at hv
  exact h (Suspensions.isValid_of_foldl hv)

end BatchStringify.Session
