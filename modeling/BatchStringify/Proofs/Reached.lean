import BatchStringify.Proofs.Ledger.Delivery

/-!
# How far the requests of a flush get

A sink that panics ends the work on the requests behind its own. The requests up to it were completed, its own
among them (`reached`), and that is all that can come between a flush and its last request: requests that are
evaluated on their own are completed exactly so far (`completions_individually`), and so are requests that are
completed from a reply (`completions_deliver`).
-/

namespace BatchStringify.Session

/-- The requests up to the first one whose sink panics, that one included. -/
def reached : List Request → List Request
  | [] => []
  | request :: rest => request :: if request.sink.panic.isSome then [] else reached rest

/-- The panic that ends work on requests, if a sink panics. -/
def firstPanic? (requests : List Request) : Option Panic := requests.findSome? (·.sink.panic)

/-- What work on requests comes to that one sink can end. -/
def outcomeOfSinks (requests : List Request) : Except Panic Unit :=
  match firstPanic? requests with
  | none => .ok ()
  | some payload => .error payload

variable {requests : List Request} {request : Request} {rest : List Request}

theorem reached_cons_of_calm (h : request.sink.panic = none) :
    reached (request :: rest) = request :: reached rest := by
  rw [reached, h]
  rfl

theorem reached_cons_of_panic {payload : Panic} (h : request.sink.panic = some payload) :
    reached (request :: rest) = [request] := by
  rw [reached, h]
  rfl

/-- Requests whose sinks do not panic are all reached. -/
theorem reached_of_calm (h : ∀ request ∈ requests, request.sink.panic = none) :
    reached requests = requests := by
  induction requests with
  | nil => rfl
  | cons request rest ih =>
    rw [reached_cons_of_calm (h request List.mem_cons_self),
      ih fun r hr => h r (List.mem_cons_of_mem _ hr)]

theorem reached_begins (requests : List Request) : reached requests <+: requests := by
  induction requests with
  | nil => exact List.nil_prefix
  | cons request rest ih =>
    cases hp : request.sink.panic with
    | none =>
      rw [reached_cons_of_calm hp]
      exact List.cons_prefix_cons.2 ⟨rfl, ih⟩
    | some payload =>
      rw [reached_cons_of_panic hp]
      exact List.cons_prefix_cons.2 ⟨rfl, List.nil_prefix⟩

theorem outcomeOfSinks_of_calm (h : ∀ request ∈ requests, request.sink.panic = none) :
    outcomeOfSinks requests = .ok () := by
  rw [outcomeOfSinks, firstPanic?, List.findSome?_eq_none_iff.2 h]

/-- Work on the elements of a list, each of which completes one request, completes the requests that are reached
and ends as their sinks do. What they are completed with may depend on something that the work leaves as it is. -/
theorem run_forM_reached {γ : Type} {f : γ → Action PUnit} (due : γ → Request × Completion)
    {I : Session → Prop}
    (h : ∀ x s, I s → ∃ t, (f x).run.run s = (complete (due x).1 (due x).2).run.run t ∧
      t.completions = s.completions ∧ I ((f x).run.run s).2)
    (xs : List γ) {s : Session} (hs : I s) :
    ((xs.forM f).run.run s).1 = outcomeOfSinks (xs.map fun x => (due x).1) ∧
      ((xs.forM f).run.run s).2.completions = s.completions ++
        (xs.map due).take (reached (xs.map fun x => (due x).1)).length := by
  induction xs generalizing s with
  | nil => exact ⟨rfl, (List.append_nil _).symm⟩
  | cons x rest ih =>
    have hx : ((x :: rest).forM f).run.run s = _ := run_bind (f x) (fun _ => rest.forM f) s
    obtain ⟨t, hf, ht, hi⟩ := h x s hs
    have hc : ((complete (due x).1 (due x).2).run.run t).2.completions =
        s.completions ++ [due x] := by
      rw [← ht]
      exact congrArg Ledger.completed (ledger_complete (due x).1 (due x).2 t)
    rw [hx]
    rw [hf] at hi ⊢
    cases hp : (due x).1.sink.panic with
    | none =>
      rw [run_complete, hp] at hc hi ⊢
      dsimp only at hc hi ⊢
      obtain ⟨hend, hdone⟩ := ih hi
      rw [hend, hdone, hc, List.map_cons, List.map_cons, reached_cons_of_calm hp]
      constructor
      · rw [outcomeOfSinks, outcomeOfSinks, firstPanic?, firstPanic?, List.findSome?_cons, hp]
      · simp
    | some payload =>
      rw [run_complete, hp] at hc ⊢
      rw [List.map_cons, List.map_cons, reached_cons_of_panic hp]
      constructor
      · rw [outcomeOfSinks, firstPanic?, List.findSome?_cons, hp]
      · simpa using hc

/-- Evaluating a request on its own is completing it with what it comes to alone. -/
theorem evaluateIndividually_eq_complete (request : Request) (s : Session) :
    ∃ t, (evaluateIndividually request).run.run s =
        (complete request (Request.alone s.link.debuggee.displays request).2).run.run t ∧
      t.completions = s.completions := by
  refine ⟨_, ?_, congrArg Ledger.completed
    (ledger_withLink s (individualText_grows request.value request.context.scope.thread s.link))⟩
  rw [run_evaluateIndividually, individualText_fst]
  rfl

/-- Requests that are evaluated one by one are completed as far as they are reached. -/
theorem run_individually_reached (requests : List Request) (s : Session) :
    ((requests.forM evaluateIndividually).run.run s).1 = outcomeOfSinks requests ∧
      ((requests.forM evaluateIndividually).run.run s).2.completions = s.completions ++
        (reached requests).map (Request.alone s.link.debuggee.displays) := by
  have hone : ∀ request t, s.link.debuggee.SameSetup t.link.debuggee →
      ∃ u, (evaluateIndividually request).run.run t =
          (complete request (Request.alone s.link.debuggee.displays request).2).run.run u ∧
        u.completions = t.completions ∧ s.link.debuggee.SameSetup
          ((evaluateIndividually request).run.run t).2.link.debuggee := by
    intro request t hsetup
    obtain ⟨u, hrun, hu⟩ := evaluateIndividually_eq_complete request t
    rw [hsetup.displays] at hrun
    exact ⟨u, hrun, hu, hsetup.trans (sameSetup_evaluateIndividually request t)⟩
  obtain ⟨hend, hdone⟩ :=
    run_forM_reached (Request.alone s.link.debuggee.displays) hone requests (.refl _)
  have howners : (requests.map fun request =>
      (Request.alone s.link.debuggee.displays request).1) = requests := List.map_id' requests
  rw [howners] at hend hdone
  refine ⟨hend, ?_⟩
  rw [hdone, ← List.map_take, ← List.prefix_iff_eq_take.1 (reached_begins requests)]

/-- Requests that are completed from a reply are completed as far as they are reached, each with the entry at its
place. -/
theorem run_deliver_reached {entries : List Reply.Entry} (length : entries.length = requests.length)
    (s : Session) :
    ((deliver requests entries).run.run s).1 = outcomeOfSinks requests ∧
      ((deliver requests entries).run.run s).2.completions = s.completions ++
        List.zipWith Request.answered (reached requests) entries := by
  obtain ⟨hend, hdone⟩ := run_forM_reached (fun p : Request × Reply.Entry => p.1.answered p.2)
    (I := fun _ => True) (f := fun p => complete p.1 (.ofEntry p.2))
    (fun p t _ => ⟨t, rfl, rfl, trivial⟩) (requests.zip entries) (s := s) trivial
  have howners : ((requests.zip entries).map fun p => (p.1.answered p.2).1) = requests :=
    List.map_fst_zip (Nat.le_of_eq length.symm)
  have hplaces : ((requests.zip entries).map fun p => p.1.answered p.2).take
      (reached requests).length = List.zipWith Request.answered (reached requests) entries := by
    rw [List.map_zip_eq_zipWith, List.take_zipWith,
      ← List.prefix_iff_eq_take.1 (reached_begins requests)]
    refine List.ext_getElem (by simp) fun i _ _ => ?_
    rw [List.getElem_zipWith, List.getElem_zipWith, List.getElem_take]
    rfl
  rw [howners] at hend hdone
  exact ⟨hend, hdone.trans (congrArg _ hplaces)⟩

end BatchStringify.Session
