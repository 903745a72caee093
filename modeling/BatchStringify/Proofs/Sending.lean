import BatchStringify.Proofs.Exchanges
import Mathlib.Order.Defs.Unbundled

/-!
# Sending

The queue changes in few ways. Turns take from it, the ends of its two sides are dropped, and everything
else can only send to it (`Enqueues`). In particular nothing but a turn takes a command or starts one.
-/

namespace BatchStringify

/-- The queue after several commands were sent to it, one after the other. -/
theorem CommandQueue.foldl_send {α : Type} (q : CommandQueue α) (sent : List α) :
    sent.foldl send q = { q with
      waiting := if q.isOpen then q.waiting ++ sent else q.waiting
      enqueued := q.enqueued + sent.length
      sent := q.sent ++ sent } := by
  induction sent generalizing q with
  | nil => cases q; simp
  | cons a rest ih =>
    rw [List.foldl_cons, ih]
    cases h : q.isOpen <;> simp [send, h] <;> omega

/-- What a command says when it is started, if it is started at all: one that is cancelled may have
nothing to do. -/
def Task.start? (cancelled : Bool) : Task → Option (String × Bool)
  | .command work _ =>
    if cancelled then
      match work.style with
      | .ordinary => some (work.name, true)
      | _ => none
    else some (work.name, false)
  | _ => none

/-- The command that an entry says was started, and whether it was cancelled. -/
def Entry.started? : Entry → Option (String × Bool)
  | .report (.started name cancelled) => some (name, cancelled)
  | _ => none

/-- Calls and notices start no command. -/
theorem Entry.IsAside.started? {kind : Call → Prop} {entry : Entry} (h : entry.IsAside kind) :
    entry.started? = none := by
  cases entry with
  | exchange call outcome => rfl
  | notice content => rfl
  | _ => exact h.elim

namespace Session

/-- The commands that were started so far, each with whether it was cancelled. -/
def starts (s : Session) : List (String × Bool) := s.link.journal.filterMap Entry.started?

/-- Whether a session did nothing with its queue but to send to it, and started no command. -/
structure Enqueues (s s' : Session) : Prop where
  queue : ∃ sent : List Task, s'.queue = sent.foldl CommandQueue.send s.queue
  starts : s'.starts = s.starts

instance : Std.Refl Enqueues where
  refl _ := ⟨⟨[], rfl⟩, rfl⟩

instance : IsTrans Session Enqueues where
  trans := by
    rintro s s' s'' ⟨⟨sent, hsent⟩, hstarts⟩ ⟨⟨sent', hsent'⟩, hstarts'⟩
    refine ⟨⟨sent ++ sent', ?_⟩, hstarts'.trans hstarts⟩
    rw [hsent', hsent, List.foldl_append]

variable {s s' : Session}

theorem Enqueues.of_eq (queue : s'.queue = s.queue) (journal : s'.link.journal = s.link.journal) :
    Enqueues s s' := ⟨⟨[], queue⟩, congrArg (List.filterMap Entry.started?) journal⟩

/-- An entry that starts no command sends nothing. -/
theorem enqueues_record {entry : Entry} (h : entry.started? = none) (s : Session) :
    Enqueues s (s.record entry) := by
  refine ⟨⟨[], rfl⟩, ?_⟩
  simp [starts, record, withLink, Link.record, h]

theorem enqueues_note (s : Session) (notice : Logging.Notice) : Enqueues s (s.note notice) := by
  have hnone : (Entry.notice notice).started? = none := rfl
  exact enqueues_record hnone s

/-- Calls and notices send nothing. -/
theorem enqueues_withLink {kind : Call → Prop} {link : Link} (h : s.link.Grows kind link) :
    Enqueues s (s.withLink link) := by
  obtain ⟨more, hmore, haside⟩ := h.journal
  have hnone : more.filterMap Entry.started? = [] :=
    List.filterMap_eq_nil_iff.2 fun entry he => (haside entry he).started?
  refine ⟨⟨[], rfl⟩, ?_⟩
  simp [starts, withLink, hmore, hnone]

/-- Sending a task is sending it once. -/
theorem enqueues_invoke (s : Session) (task : Task) : Enqueues s (s.invoke task) := by
  have hsent : Enqueues s { s with queue := s.queue.send task } := ⟨⟨[task], rfl⟩, rfl⟩
  unfold invoke
  dsimp only
  split
  · exact hsent
  · exact IsTrans.trans _ _ _ hsent (enqueues_note _ _)

/-- Looking for the helper sends nothing. -/
theorem enqueues_askProbe (s : Session) (context : Context) :
    Enqueues s (s.askProbe context).2 := by
  unfold askProbe
  split
  · have hlink := enqueues_withLink (Probe.ask_grows s.settings context s.probe s.link)
    exact ⟨hlink.queue, hlink.starts⟩
  · exact Std.Refl.refl s

end Session

end BatchStringify
