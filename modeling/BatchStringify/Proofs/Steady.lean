import BatchStringify.Proofs.Grounded

/-!
# Steady sessions

A session is steady as long as it is only stopped, handed plain submissions and run: it stays grounded in what
it was at the outset, and all its scopes stay valid (`Steady`). Then a batch is only gathered where the helper
is asked, and a request with a task of its own is one that is due what it comes to alone, whenever the queue
is run.
-/

namespace BatchStringify

/-- Whether no scope was ended. -/
structure Suspensions.Intact (u : Suspensions) : Prop where
  invalidated : u.invalidated = []
  detached : ∀ b ∈ u.detached, b = false

theorem Suspensions.Intact.isValid {u : Suspensions} (h : u.Intact) (scope : Scope) :
    u.isValid scope = true := by
  have hd : u.isDetached scope.attachment = false := by
    unfold isDetached
    rw [List.getD_eq_getElem?_getD]
    cases hb : u.detached[scope.attachment]? with
    | none => rfl
    | some b => exact h.detached b (List.mem_of_getElem? hb)
  rw [Suspensions.isValid, h.invalidated, hd]
  rfl

/-- Whether a step leaves the debuggee and all scopes as they are: a stop, or a plain submission in a
context with the session's own connection. -/
def Step.isSteady : Step → Bool
  | .attach | .suspend _ _ | .failRelease _ => true
  | .submit submission | .submitRequest submission =>
    submission.sink.isPlain && submission.place.connection.isNone
  | _ => false

theorem Step.isPlain_of_isSteady {step : Step} (h : step.isSteady = true) : step.isPlain = true := by
  cases step with
  | submit submission => exact (Bool.and_eq_true_iff.1 h).1
  | submitRequest submission => exact (Bool.and_eq_true_iff.1 h).1
  | attach => rfl
  | suspend attachment thread => rfl
  | failRelease error => rfl
  | _ => cases h

namespace Session

/-- Whether a session goes on as it was at the outset. -/
structure Steady (o s : Session) : Prop extends Grounded o s where
  intact : s.suspensions.Intact

variable {entry : Value → Reply.Entry} {o s : Session}

/-- What the journal says and how many requests were made has no part in this. -/
theorem Steady.alter (h : Steady o s) {u : Suspensions} (intact : u.Intact)
    (journal : List Entry) (fault : Option RemoteError) (made : Nat) :
    Steady o { s with
      link := { s.link with journal := journal, releaseFault := fault }
      suspensions := u
      made := made } :=
  ⟨h.toGrounded.alter u journal fault made, intact⟩

/-- A request that is not to be gathered is due what it comes to alone. -/
theorem due_of_not_groupable {r : Request} (h : o.groupable r = false) :
    o.due entry r = r.alone o.link.debuggee.displays := by
  rw [due, if_neg]
  rintro ⟨⟨hobject, ht⟩, hgathers, -⟩
  simp [groupable, hobject, ht, hgathers] at h

/-! ## Runs of the queue -/

/-- A batch of objects of one scope brings its requests what is due to them. -/
theorem batchGives_due (elementwise : o.link.debuggee.Elementwise entry) (h : Steady o s)
    {context : Context} {requests : List Request}
    (objects : ∀ r ∈ requests, r.context.scope = context.scope ∧ r.value.objectId?.isSome)
    (gathered : requests ≠ [] → o.gathers = true ∧ s.probe = o.found) :
    BatchGives (o.due entry) context requests s := by
  have helementwise := h.setup.elementwise elementwise
  have hanswered : ∀ helper entries,
      (∃ l, Attempt.Answered s.settings helper context (requests.map (·.value)) s.link entries l) ↔
        (context.scope.thread.isSome ∧ o.link.debuggee.serves o.settings = true) ∧
          entries = (requests.map (·.value)).map fun v => (entry v).received := by
    intro helper entries
    rw [← h.setup.serves, ← h.settings]
    refine Attempt.exists_answered_iff_of_elementwise helementwise h.numbered fun v hv => ?_
    obtain ⟨r, hr, rfl⟩ := List.mem_map.1 hv
    exact (objects r hr).2
  refine ⟨fun _ _ payload => ?_, fun helper entries link hhelper answered => ?_, fun unanswered => ?_⟩
  · -- the helper returns a text, so there is no panic
    rw [helementwise.reply?_eq]
    split <;> simp
  · obtain ⟨⟨ht, hserves⟩, rfl⟩ := (hanswered helper entries).1 ⟨link, answered⟩
    rw [List.map_map, List.zipWith_map_right, List.zipWith_self]
    refine List.map_congr_left fun r hr => ?_
    obtain ⟨hscope, hobject⟩ := objects r hr
    obtain ⟨hgathers, -⟩ := gathered (List.ne_nil_of_mem hr)
    rw [due, if_pos ⟨⟨hobject, hscope ▸ ht⟩, hgathers, hserves⟩]
    rfl
  · rw [h.setup.displays]
    refine List.map_congr_left fun r hr => ?_
    obtain ⟨hscope, -⟩ := objects r hr
    obtain ⟨hgathers, hprobe⟩ := gathered (List.ne_nil_of_mem hr)
    rw [due, if_neg]
    rintro ⟨⟨-, ht⟩, -, hserves⟩
    -- the helper is known, so the attempt would have been answered
    have hallows : s.probe.helper?.isSome := by
      rw [hprobe]
      exact (Bool.and_eq_true_iff.1 hgathers).2
    obtain ⟨helper, hhelper⟩ := Option.isSome_iff_exists.1 hallows
    obtain ⟨l, answered⟩ := (hanswered helper _).2 ⟨⟨hscope ▸ ht, hserves⟩, rfl⟩
    exact unanswered helper hhelper ⟨_, l, answered⟩

/-- Whatever task is next, it brings its requests what is due to them. -/
theorem nextGives_due (elementwise : o.link.debuggee.Elementwise entry) (calm : s.Calm)
    (h : Steady o s) : NextGives (o.due entry) s where
  individual := by
    intro request hhead _
    rw [h.setup.displays]
    exact due_of_not_groupable (h.single request (List.mem_of_mem_head? hhead))
  flush := by
    intro context hhead _
    obtain ⟨rest, hw⟩ := List.head?_eq_some_iff.1 hhead
    refine batchGives_due elementwise h (objects_of_flush calm.sound hw) fun hne => ?_
    refine h.gathered fun hnone => hne ?_
    rw [next_of_cons hw, carried, Table.find?, hnone]
    rfl

/-- A turn keeps a session steady and settles what is due. -/
theorem Steady.turn (elementwise : o.link.debuggee.Elementwise entry) (calm : s.Calm)
    (h : Steady o s) :
    Settles (o.due entry) s (s.after .turn) ∧ Steady o (s.after .turn) := by
  have hs := settles_turn calm (nextGives_due elementwise calm h)
  refine ⟨hs, ?_⟩
  refine ⟨h.toGrounded.turn calm.toReady (congrArg Outlook.connection hs.outlook), ?_⟩
  rw [show (s.after .turn).suspensions = s.suspensions from
    congrArg Outlook.suspensions hs.outlook]
  exact h.intact

theorem Steady.turns (n : Nat) (elementwise : o.link.debuggee.Elementwise entry) (calm : s.Calm)
    (h : Steady o s) :
    (∀ t ∈ s.turns (List.replicate n .turn), Settles (o.due entry) t (t.after .turn)) ∧
      Steady o (s.play (List.replicate n .turn)) := by
  induction n generalizing s with
  | zero => exact ⟨fun t ht => (by cases ht), h⟩
  | succ n ih =>
    obtain ⟨hs, hnext⟩ := h.turn elementwise calm
    obtain ⟨hrest, hlast⟩ := ih (hs.calm (sound_turn calm.sound) calm) hnext
    refine ⟨fun t ht => ?_, hlast⟩
    rcases List.mem_cons.1 ht with rfl | ht
    · exact hs
    · exact hrest t ht

/-- A run of the queue brings all requests that waited what is due to them. -/
theorem Steady.runPending (elementwise : o.link.debuggee.Elementwise entry) (calm : s.Calm)
    (h : Steady o s) :
    let s' := s.runPending.2
    s'.Calm ∧ Steady o s' ∧ s'.outlook = s.outlook ∧ s'.ledger.waiting = [] ∧
    ∃ done, s'.completions = s.completions ++ done ∧
      done.Perm (s.ledger.waiting.map (o.due entry)) := by
  intro s'
  obtain ⟨hsettles, hsteady⟩ := h.turns s.runPending.1 elementwise calm
  obtain ⟨hcalm, houtlook, -, -, hnone, done, hdone, hperm⟩ := calm_runPending calm hsettles
  have hplay : s' = s.play (List.replicate s.runPending.1 .turn) := drain_eq_play s.work s
  rw [← hplay] at hsteady
  refine ⟨hcalm, hsteady, houtlook, hnone, done, hdone, ?_⟩
  have hall : ∀ r ∈ s.ledger.waiting, s.outlook.suspensions.isValid r.context.scope = true :=
    fun r _ => h.intact.isValid _
  rwa [Outlook.settle, List.filter_eq_self.2 hall] at hperm

/-! ## Steps -/

theorem Steady.withRequest (h : Steady o s) (calm : s.Calm) {submission : Submission}
    (own : submission.place.connection = none) :
    Steady o ((Session.withRequest submission fun request =>
      changing (·.submit request)).run.run s).2 := by
  refine ⟨h.toGrounded.withRequest calm.toReady own, ?_⟩
  have hprepares : Prepares (.submit submission) s _ :=
    prepares_submit calm.toReady submission rfl rfl
  rw [show ((Session.withRequest submission fun request =>
      changing (·.submit request)).run.run s).2.suspensions = s.suspensions from
    congrArg Outlook.suspensions hprepares.outlook]
  exact h.intact

/-- A steady step keeps a session steady. -/
theorem Steady.step (h : Steady o s) (calm : s.Calm) {step : Step}
    (steady : step.isSteady = true) : Steady o (s.after (.step step)) := by
  cases step with
  | attach =>
    have hintact : s.suspensions.attach.Intact := by
      refine ⟨h.intact.invalidated, fun b hb => ?_⟩
      rcases List.mem_append.1 hb with hb | hb
      · exact h.intact.detached b hb
      · exact List.mem_singleton.1 hb
    exact h.alter hintact _ _ _
  | suspend attachment thread =>
    have hintact : (s.suspensions.suspend attachment thread).Intact :=
      ⟨h.intact.invalidated, h.intact.detached⟩
    exact h.alter hintact _ _ _
  | failRelease error => exact h.alter h.intact _ _ _
  | submit submission =>
    exact h.withRequest calm (Option.isNone_iff_eq_none.1 (Bool.and_eq_true_iff.1 steady).2)
  | submitRequest submission =>
    exact h.withRequest calm (Option.isNone_iff_eq_none.1 (Bool.and_eq_true_iff.1 steady).2)
  | _ => cases steady

end Session

end BatchStringify
