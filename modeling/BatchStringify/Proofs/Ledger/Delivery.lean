import BatchStringify.Proofs.Attempt
import BatchStringify.Proofs.Ledger.Basic

/-!
# Delivery in the ledger

How requests are completed, as far as the ledger shows it. Whatever way a list of requests takes,
from the reply to a batch or one by one, they are completed in their order and each at most once; a
panic can only cut the list off (`Ledger.Delivers`). A batch that is not completed from a reply is
left alone as a whole (`BatchDelivers`).
-/

namespace BatchStringify

/-! ## Single values -/

/-- What evaluating a value on its own comes to, given the outcomes of `toString`: only a reference
needs a thread and the debuggee. -/
def Value.outcomeAlone (displays : Table ObjectId (Except RemoteError String))
    (thread : Option ThreadId) (v : Value) : Except RemoteError String :=
  match v.objectId?, thread with
  | none, _ => .ok (v.localText?.getD "")
  | some _, none => .error (.evaluation "no suspended thread to evaluate on")
  | some id, some _ => (displays.find? id).getD (.error (.objectCollected id))

/-- A request together with what evaluating it on its own completes it with. -/
def Request.alone (displays : Table ObjectId (Except RemoteError String)) (request : Request) :
    Request × Completion :=
  (request, .ofOutcome (request.value.outcomeAlone displays request.context.scope.thread))

/-- A request together with what the entry at its place completes it with. -/
def Request.answered (request : Request) (entry : Reply.Entry) : Request × Completion :=
  (request, .ofEntry entry)

theorem map_fst_alone (displays : Table ObjectId (Except RemoteError String))
    (requests : List Request) : (requests.map (Request.alone displays)).map (·.1) = requests := by
  rw [List.map_map]
  exact List.map_id requests

/-- A reply with an entry for each request answers all of them. -/
theorem map_fst_answered {requests : List Request} {entries : List Reply.Entry}
    (h : entries.length = requests.length) :
    (List.zipWith Request.answered requests entries).map (·.1) = requests := by
  rw [← List.map_uncurry_zip_eq_zipWith, List.map_map]
  exact List.map_fst_zip (Nat.le_of_eq h.symm)

/-- What `toString` gives is the text that is known for the object. Without one the object was collected. -/
theorem Debuggee.invokeToString_fst (d : Debuggee) (thread : ThreadId) (id : ObjectId) :
    (d.invokeToString thread id).1 = (d.displays.find? id).getD (.error (.objectCollected id)) := by
  unfold invokeToString
  dsimp only [noted]
  cases d.displays.find? id <;> rfl

/-- What evaluating a value on its own gives depends on what `toString` gives alone. -/
theorem individualText_fst (v : Value) (thread : Option ThreadId) (link : Link) :
    (Session.individualText v thread link).1 = v.outcomeAlone link.debuggee.displays thread := by
  unfold Session.individualText Value.outcomeAlone
  cases v with
  | object tag id =>
    cases thread with
    | none => rfl
    | some thread => exact link.debuggee.invokeToString_fst thread id
  | _ => rfl

/-! ## Lists of requests -/

/-- Whether a ledger came from another one by completing what is due, in order: all of it if the work
came to its end, and otherwise some first part of it. -/
def Ledger.Delivers (l : Ledger) (due : List (Request × Completion)) (finished : Prop)
    (l' : Ledger) : Prop :=
  ∃ done, l' = l.complete done ∧ done <+: due ∧ (finished → done = due)

namespace Ledger

/-- With nothing due the work is done. -/
theorem Delivers.nil (l : Ledger) (finished : Prop) : l.Delivers [] finished l :=
  ⟨[], l.complete_nil.symm, List.nil_prefix, fun _ => rfl⟩

/-- Work that stops at its first request has completed this one. -/
theorem Delivers.stopped (l : Ledger) (first : Request × Completion)
    (due : List (Request × Completion)) {finished : Prop} (h : ¬finished) :
    (l.Delivers (first :: due) finished (l.complete [first])) :=
  ⟨[first], rfl, ⟨due, rfl⟩, fun hf => absurd hf h⟩

/-- After the first request the rest is due. -/
theorem Delivers.cons {l l' : Ledger} {first : Request × Completion}
    {due : List (Request × Completion)} {finished : Prop}
    (h : (l.complete [first]).Delivers due finished l') :
    l.Delivers (first :: due) finished l' := by
  obtain ⟨done, rfl, hp, hf⟩ := h
  refine ⟨first :: done, ?_, List.cons_prefix_cons.2 ⟨rfl, hp⟩, fun h => by rw [hf h]⟩
  simp [complete]

theorem Delivers.mono {l l' : Ledger} {due : List (Request × Completion)} {f f' : Prop}
    (h : l.Delivers due f l') (hf : f' → f) : l.Delivers due f' l' := by
  obtain ⟨done, hl, hp, hd⟩ := h
  exact ⟨done, hl, hp, fun h => hd (hf h)⟩

/-- Work that comes to its end completes all that is due. -/
theorem Delivers.eq_complete {l l' : Ledger} {due : List (Request × Completion)} {finished : Prop}
    (h : l.Delivers due finished l') (hf : finished) : l' = l.complete due := by
  obtain ⟨done, hl, -, hd⟩ := h
  rw [hl, hd hf]

end Ledger

/-- Whether a ledger came from another one by completing requests, in order: all of them if the work
came to its end, and otherwise some first ones. -/
def Ledger.Completes (l : Ledger) (requests : List Request) (finished : Prop) (l' : Ledger) : Prop :=
  ∃ due : List (Request × Completion), due.map (·.1) = requests ∧ l.Delivers due finished l'

/-- Work that stops before its first request completes nothing. -/
theorem Ledger.Completes.unstarted (l : Ledger) (requests : List Request) :
    l.Completes requests False l :=
  ⟨requests.map (Request.alone .empty), map_fst_alone _ _, [], l.complete_nil.symm,
    List.nil_prefix, False.elim⟩

namespace Session

variable {γ : Type}

/-- Sending a command leaves the debuggee alone. -/
@[simp] theorem debuggee_offer (s : Session) (command : Command) :
    (s.offer command).link.debuggee = s.link.debuggee := by
  unfold offer invokeCommand invoke
  split
  · dsimp only
    split <;> rfl
  · rfl

@[simp] theorem debuggee_invalidateAt (s : Session) (index : Nat) :
    (s.invalidateAt index).link.debuggee = s.link.debuggee := by
  unfold invalidateAt
  split <;> rfl

@[simp] theorem debuggee_detach (s : Session) (attachment : Nat) :
    (s.detach attachment).link.debuggee = s.link.debuggee := rfl

/-- Sinks have no access to the debuggee. -/
@[simp] theorem debuggee_afterSink (sink : Sink) (s : Session) :
    (afterSink sink s).link.debuggee = s.link.debuggee := by
  unfold afterSink
  dsimp only
  rw [foldl_keeps (·.link.debuggee) debuggee_offer, foldl_keeps (·.link.debuggee) debuggee_detach,
    foldl_keeps (·.link.debuggee) debuggee_invalidateAt]

/-- Completing a request does just this in the ledger, whatever its sink does. -/
theorem ledger_complete (request : Request) (completion : Completion) (s : Session) :
    ((complete request completion).run.run s).2.ledger =
      s.ledger.complete [(request, completion)] := by
  rw [run_complete, ledger_afterSink, ledger_record_completed]

/-- The debuggee has no part in it. -/
theorem debuggee_complete (request : Request) (completion : Completion) (s : Session) :
    ((complete request completion).run.run s).2.link.debuggee = s.link.debuggee := by
  rw [run_complete, debuggee_afterSink]
  rfl

/-- A request that is evaluated on its own is completed with what is due to it alone. -/
theorem ledger_evaluateIndividually (request : Request) (s : Session) :
    ((evaluateIndividually request).run.run s).2.ledger =
      s.ledger.complete [request.alone s.link.debuggee.displays] := by
  rw [run_evaluateIndividually, ledger_complete, ledger_withLink _ (individualText_grows _ _ _),
    individualText_fst]
  rfl

/-- The call that this takes leaves the setup of the debuggee. -/
theorem sameSetup_evaluateIndividually (request : Request) (s : Session) :
    s.link.debuggee.SameSetup ((evaluateIndividually request).run.run s).2.link.debuggee := by
  rw [run_evaluateIndividually, debuggee_complete]
  exact (individualText_grows _ _ _).setup

/-- Work on the elements of a list, each of which completes one request, delivers in the order of the
list. What is due may depend on something that the work leaves as it is. -/
theorem delivers_forM {f : γ → Action PUnit} (due : γ → Request × Completion)
    {I : Session → Prop}
    (h : ∀ x s, I s → I ((f x).run.run s).2 ∧
      ((f x).run.run s).2.ledger = s.ledger.complete [due x])
    (xs : List γ) {s : Session} (hs : I s) :
    I ((xs.forM f).run.run s).2 ∧
      s.ledger.Delivers (xs.map due) (((xs.forM f).run.run s).1 = .ok ⟨⟩)
        ((xs.forM f).run.run s).2.ledger := by
  induction xs generalizing s with
  | nil => exact ⟨hs, .nil _ _⟩
  | cons x rest ih =>
    obtain ⟨hi, hl⟩ := h x s hs
    have hx : ((x :: rest).forM f).run.run s = _ := run_bind (f x) (fun _ => rest.forM f) s
    rw [hx]
    rcases hr : (f x).run.run s with ⟨payload | _, s'⟩
    · rw [hr] at hi hl
      dsimp only at hi hl ⊢
      rw [hl]
      exact ⟨hi, .stopped _ _ _ (by simp)⟩
    · rw [hr] at hi hl
      obtain ⟨hi', hd⟩ := ih hi
      refine ⟨hi', .cons ?_⟩
      rw [← hl]
      exact hd

/-- Nothing stops work on a list of which no element panics. -/
theorem forM_eq_ok {f : γ → Action PUnit} {xs : List γ}
    (h : ∀ x ∈ xs, ∀ s, ((f x).run.run s).1 = .ok ⟨⟩) (s : Session) :
    ((xs.forM f).run.run s).1 = .ok ⟨⟩ := by
  induction xs generalizing s with
  | nil => rfl
  | cons x rest ih =>
    have hx : ((x :: rest).forM f).run.run s = _ := run_bind (f x) (fun _ => rest.forM f) s
    have ho := h x List.mem_cons_self s
    rw [hx]
    rcases hr : (f x).run.run s with ⟨payload | _, s'⟩
    · rw [hr] at ho
      cases ho
    · exact ih (fun y hy => h y (List.mem_cons_of_mem _ hy)) s'

/-- Requests that are evaluated one by one are completed in their order. -/
theorem delivers_individually (requests : List Request) (s : Session) :
    s.link.debuggee.SameSetup ((requests.forM evaluateIndividually).run.run s).2.link.debuggee ∧
      s.ledger.Delivers (requests.map (Request.alone s.link.debuggee.displays))
        (((requests.forM evaluateIndividually).run.run s).1 = .ok ())
        ((requests.forM evaluateIndividually).run.run s).2.ledger := by
  refine delivers_forM (I := fun s' => s.link.debuggee.SameSetup s'.link.debuggee) _
    (fun request s' hs => ⟨hs.trans (sameSetup_evaluateIndividually request s'), ?_⟩) requests
    (.refl _)
  rw [ledger_evaluateIndividually, hs.displays]

/-- Requests are completed with the entries at their places. -/
theorem delivers_deliver (requests : List Request) (entries : List Reply.Entry) (s : Session) :
    ((deliver requests entries).run.run s).2.link.debuggee = s.link.debuggee ∧
      s.ledger.Delivers (List.zipWith Request.answered requests entries)
        (((deliver requests entries).run.run s).1 = .ok ())
        ((deliver requests entries).run.run s).2.ledger := by
  have h := delivers_forM (f := fun (p : Request × Reply.Entry) => complete p.1 (.ofEntry p.2))
    (fun p => p.1.answered p.2) (I := fun s' => s'.link.debuggee = s.link.debuggee)
    (fun p s' hs => ⟨(debuggee_complete _ _ _).trans hs, ledger_complete _ _ _⟩)
    (requests.zip entries) rfl
  rwa [List.map_zip_eq_zipWith] at h

/-! ## Batches -/

/-- The end of an evaluation with one call, as the ledger shows it: all requests were completed and
none is left, or none was and all are left, or a panic cut the completion off. -/
def BatchDelivers (requests : List Request) (s : Session) :
    Except Panic (Bool × List Request) × Session → Prop
  | (.ok (true, left), s') => left = [] ∧ s.ledger.Completes requests True s'.ledger
  | (.ok (false, left), s') => left = requests ∧ s'.ledger = s.ledger
  | (.error _, s') => s.ledger.Completes requests False s'.ledger

/-- An attempt completes its requests from the reply, or leaves all of them to be evaluated one by one. -/
theorem batchDelivers_evaluateBatch (helper : Helper) (context : Context)
    (requests : List Request) (s : Session) :
    BatchDelivers requests s ((evaluateBatch helper context requests).run.run s) := by
  have hg := Attempt.evaluate_grows s.settings helper context (requests.map (·.value)) s.link
  rcases hr : (Attempt.evaluate s.settings helper context (requests.map (·.value))).run.run.run
    s.link with ⟨payload | fault | entries, l⟩ <;> rw [run_evaluateBatch, run_attemptBatch hr]
  · rw [hr] at hg
    show s.ledger.Completes requests False (s.withLink l).ledger
    rw [ledger_withLink s hg]
    exact .unstarted _ _
  · rw [hr] at hg
    exact ⟨rfl, (ledger_note _ rfl).trans (ledger_withLink s hg)⟩
  · rw [hr] at hg
    obtain ⟨-, hd⟩ := delivers_deliver requests entries (s.withLink l)
    rw [ledger_withLink s hg] at hd
    have hlen := (Attempt.evaluate_eq_entries_iff.1 hr).length_eq
    rw [List.length_map] at hlen
    have hfst := map_fst_answered hlen
    dsimp only
    rcases hdel : (deliver requests entries).run.run (s.withLink l) with ⟨payload | _, s'⟩
    · rw [hdel] at hd
      exact ⟨_, hfst, hd.mono False.elim⟩
    · rw [hdel] at hd
      exact ⟨rfl, _, hfst, hd.mono fun _ => rfl⟩

/-- The same holds if there is no helper to ask. -/
theorem batchDelivers_evaluateTogether (context : Context) (requests : List Request)
    (s : Session) :
    BatchDelivers requests s ((evaluateTogether context requests).run.run s) := by
  rw [run_evaluateTogether]
  cases s.probe.helper? with
  | none => exact ⟨rfl, rfl⟩
  | some helper => exact batchDelivers_evaluateBatch helper context requests s

/-- Requests that are evaluated together are completed in their order, by whichever way. -/
theorem completes_evaluateAll (context : Context) (requests : List Request) (s : Session) :
    s.ledger.Completes requests (((evaluateAll context requests).run.run s).1 = .ok ())
      ((evaluateAll context requests).run.run s).2.ledger := by
  have h := batchDelivers_evaluateTogether context requests s
  rw [run_evaluateAll]
  rcases hr : (evaluateTogether context requests).run.run s with ⟨payload | ⟨_ | _, left⟩, s'⟩ <;>
    rw [hr] at h
  · obtain ⟨due, hfst, hd⟩ := h
    exact ⟨due, hfst, hd.mono (by simp)⟩
  · obtain ⟨rfl, hl⟩ := h
    refine ⟨left.map (Request.alone s'.link.debuggee.displays), map_fst_alone _ _, ?_⟩
    rw [← hl]
    exact (delivers_individually left s').2
  · obtain ⟨-, due, hfst, hd⟩ := h
    exact ⟨due, hfst, hd.mono fun _ => trivial⟩

end Session

end BatchStringify
