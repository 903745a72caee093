import BatchStringify.Session.Top

/-!
# Runs of a session

A run is a sequence of events: steps of the embedder, turns of the queue, and the ends of the two
sides of the queue. A turn takes one task and executes it, so a run can stop and go on between any two
tasks. Whatever a step at the top of a script does is a sequence of events (`performTop_eq_play`).
-/

namespace BatchStringify.Session

/-- One thing that can happen to a session while no task is executed. -/
inductive Event where
  | step (step : Step)
  /-- The next task is taken from the queue and executed. -/
  | turn
  | dropSender
  | dropQueue

/-- The session after an event. -/
def after (s : Session) : Event → Session
  | .step step => ((perform step).run.run s).2
  | .turn => s.dequeue.getD s
  | .dropSender => s.dropOwnSender
  | .dropQueue => s.closeQueue

/-- The session after a run. -/
def play (s : Session) (events : List Event) : Session := events.foldl after s

/-- The requests that a task would bring to their end if it was executed now. -/
def carried (s : Session) : Task → List Request
  | .flush context => (s.pending.find? context.scope.id).getD []
  | .individual request => [request]
  | .command _ _ => []

/-- The requests that the next task carries. -/
def next (s : Session) : List Request := s.queue.waiting.head?.elim [] s.carried

/-- The sessions right before each turn of a run. -/
def turns (s : Session) : List Event → List Session
  | [] => []
  | .turn :: rest => s :: (s.after .turn).turns rest
  | event :: rest => (s.after event).turns rest

@[simp] theorem play_nil (s : Session) : s.play [] = s := rfl

@[simp] theorem play_cons (s : Session) (event : Event) (rest : List Event) :
    s.play (event :: rest) = (s.after event).play rest := rfl

theorem play_append (s : Session) (first second : List Event) :
    s.play (first ++ second) = (s.play first).play second := List.foldl_append

theorem turns_append (s : Session) (first second : List Event) :
    s.turns (first ++ second) = s.turns first ++ (s.play first).turns second := by
  induction first generalizing s with
  | nil => rfl
  | cons event rest ih =>
    cases event with
    | turn => exact congrArg (s :: ·) (ih _)
    | _ => exact ih _

/-- A turn of a run comes after some first part of it. -/
theorem exists_of_mem_turns {s t : Session} {events : List Event} (h : t ∈ s.turns events) :
    ∃ before after, events = before ++ .turn :: after ∧ t = s.play before := by
  induction events generalizing s with
  | nil => cases h
  | cons event rest ih =>
    have hlater : t ∈ (s.after event).turns rest →
        ∃ before after, event :: rest = before ++ .turn :: after ∧ t = s.play before := by
      intro ht
      obtain ⟨before, after, rfl, rfl⟩ := ih ht
      exact ⟨event :: before, after, rfl, rfl⟩
    cases event with
    | turn =>
      rcases List.mem_cons.1 h with rfl | h
      · exact ⟨[], rest, rfl, rfl⟩
      · exact hlater h
    | _ => exact hlater h

/-! ## Scripts -/

theorem drain_eq_play (fuel : Nat) (s : Session) :
    (drain fuel s).2 = s.play (List.replicate (drain fuel s).1 .turn) := by
  induction fuel generalizing s with
  | zero => rfl
  | succ fuel ih =>
    rw [drain]
    cases hd : s.dequeue with
    | none => rfl
    | some s' =>
      have ha : s.after .turn = s' := by simp [after, hd]
      rw [List.replicate_succ, play_cons, ha]
      exact ih s'

/-- The events that make up a step at the top of a script. -/
def eventsOf (s : Session) : TopStep → List Event
  | .run => if s.queue.isOpen then List.replicate s.runPending.1 .turn else []
  | .dropQueue => [.dropQueue]
  | .dropSender => [.dropSender]
  | .showSenders => []
  | .thread keepOpen =>
    if s.queue.isOpen then
      if keepOpen then List.replicate s.runPending.1 .turn ++ [.dropSender, .dropQueue]
      else .dropSender ::
        (List.replicate s.dropOwnSender.runPending.1 .turn ++ [.dropSender, .dropQueue])
    else []
  | .step step => [.step step]

/-- The session with an empty journal. -/
def cleared (s : Session) : Session := s.withLink { s.link with journal := [] }

/-- The sessions right before each turn in a script. Each step of the script begins its own journal.
-/
def scriptTurns : List TopStep → Session → List Session
  | [], _ => []
  | step :: rest, s =>
    s.cleared.turns (s.cleared.eventsOf step) ++ scriptTurns rest (performTop step s.cleared).2

/-- Every step at the top of a script is a sequence of events. -/
theorem performTop_eq_play (step : TopStep) (s : Session) :
    (performTop step s).2 = s.play (s.eventsOf step) := by
  have hrun : ∀ s : Session, s.runPending.2 = s.play (List.replicate s.runPending.1 .turn) :=
    fun s => drain_eq_play s.work s
  cases step with
  | run =>
    by_cases h : s.queue.isOpen
    · simp only [performTop, eventsOf, h, if_true]
      exact hrun s
    · simp [performTop, eventsOf, h]
  | thread keepOpen =>
    by_cases h : s.queue.isOpen
    · cases keepOpen with
      | true =>
        simp only [performTop, eventsOf, h, if_true, workThread, play_append, ← hrun]
        rfl
      | false =>
        simp only [performTop, eventsOf, h, if_true, Bool.false_eq_true, if_false, workThread,
          play_cons, play_append, after, ← hrun]
        rfl
    · simp [performTop, eventsOf, h]
  | step step =>
    show _ = ((perform step).run.run s).2
    rw [performTop]
    rcases (perform step).run.run s with ⟨_ | _, _⟩ <;> rfl
  | _ => rfl

end BatchStringify.Session
