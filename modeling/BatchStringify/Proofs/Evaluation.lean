import BatchStringify.Proofs.Ledger.Delivery

/-!
# What evaluations lead along

However requests are evaluated, the session changes in two ways only: its link grows, and requests are
completed. The link grows by calls of `toString`, or by the calls of an attempt with the helper that the
probe knows. So a reflexive and transitive relation that all of these lead along is one that every evaluation
leads along, whether it ends well or with a panic (`along_evaluateAll`).
-/

namespace BatchStringify.Session

variable {R : Session → Session → Prop} [IsTrans Session R] {requests : List Request}

theorem along_evaluateIndividually {request : Request}
    (displays : ∀ {s link}, s.link.Grows (·.isDisplay) link → R s (s.withLink link))
    (completes : ∀ completion, Along R (complete request completion)) :
    Along R (evaluateIndividually request) :=
  .of_bind (fun _ => displays (individualText_grows _ _ _)) fun _ => completes _

variable [Std.Refl R]

/-- An evaluation with one call lets the link grow, and completes requests if there are entries. -/
theorem along_evaluateBatch {s : Session} {helper : Helper}
    (attempts : ∀ {link}, s.link.Grows (·.isAttempt s.settings helper) link →
      R s (s.withLink link))
    (completes : ∀ r ∈ requests, ∀ completion, Along R (complete r completion))
    (context : Context) : R s ((evaluateBatch helper context requests).run.run s).2 := by
  have hg := Attempt.evaluate_grows s.settings helper context (requests.map (·.value)) s.link
  rcases hr : (Attempt.evaluate s.settings helper context (requests.map (·.value))).run.run.run
    s.link with ⟨payload | fault | entries, link⟩ <;> rw [hr] at hg <;>
    rw [run_evaluateBatch, run_attemptBatch hr] <;> dsimp only
  · exact attempts hg
  · have hnote : link.Grows (·.isAttempt s.settings helper)
        (link.note (.batchFailed context.scope.id requests.length fault)) := link.grows_note rfl
    exact attempts (hg.trans hnote)
  · have hdelivers : Along R (deliver requests entries) :=
      .of_forM fun p hp => completes p.1 (List.of_mem_zip hp).1 _
    have hdelivered := hdelivers (s.withLink link)
    rcases hd : (deliver requests entries).run.run (s.withLink link) with ⟨payload | _, s'⟩ <;>
      rw [hd] at hdelivered
    · exact IsTrans.trans _ _ _ (attempts hg) hdelivered
    · exact IsTrans.trans _ _ _ (attempts hg) hdelivered

/-- Requests are evaluated together, by whichever way. -/
theorem along_evaluateAll
    (displays : ∀ {s link}, s.link.Grows (·.isDisplay) link → R s (s.withLink link))
    (attempts : ∀ {s helper link}, s.probe.helper? = some helper →
      s.link.Grows (·.isAttempt s.settings helper) link → R s (s.withLink link))
    (completes : ∀ r ∈ requests, ∀ completion, Along R (complete r completion))
    (context : Context) : Along R (evaluateAll context requests) := by
  have htogether : Along R (evaluateTogether context requests) := by
    intro s
    rw [run_evaluateTogether]
    cases hp : s.probe.helper? with
    | none => exact Std.Refl.refl s
    | some helper =>
      exact along_evaluateBatch (attempts hp) completes context
  intro s
  have h := htogether s
  have hleft := batchDelivers_evaluateTogether context requests s
  rw [run_evaluateAll]
  rcases hr : (evaluateTogether context requests).run.run s with ⟨payload | ⟨_ | _, left⟩, s'⟩ <;>
    rw [hr] at h hleft
  · exact h
  · obtain ⟨rfl, -⟩ := hleft
    have hindividually : Along R (left.forM evaluateIndividually) :=
      .of_forM fun r hr => along_evaluateIndividually displays (completes r hr)
    exact IsTrans.trans _ _ _ h (hindividually s')
  · exact h

end BatchStringify.Session
