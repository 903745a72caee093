import BatchStringify.Proofs.Apart

/-!
# Scopes do not interfere

Scopes share the queue, the probe, and the arrays, strings and numbers of the debuggee. Even so, what the
requests of a scope come to does not depend on what is done with another scope: which values are handed in for
it, which of its sinks panic, and when it ends. Each run of a script delivers to the requests of all other
scopes what the windows of the script make of them (`Apart.script`), and the windows of the other scopes are
the same in scripts that differ in the one scope only.
-/

namespace BatchStringify.Session

/-- What a request came to, as far as completions tell. -/
def outcomesOf (done : List (Request × Completion)) (r : Request) : List Completion :=
  (done.filter (·.1.serial == r.serial)).map (·.2)

/-- The requests of a script for other scopes than the one at a position, in the order of their submission and
without their numbers, and what the script delivered to each. -/
def outcomesElsewhere (index : Nat) (script : List TopStep) (s : Session) :
    List (Request × List Completion) :=
  ((s.outlook.requests script).filter (·.isElsewhere index)).map fun r =>
    (r.unnumbered, outcomesOf (delivered script s) r)

variable {index : Nat} {o s : Session} {window : List Request} {reply : List Value → HandlerReply}

/-! ## Scripts -/

theorem Apart.cleared (h : Apart index o s) : Apart index o s.cleared :=
  ⟨h.toReady.cleared, h.toGrounded.alter s.suspensions _ _ _, h.sinks⟩

theorem Windowed.cleared (w : Windowed index o window s) : Windowed index o window s.cleared :=
  ⟨w.isWindow, w.waiting, w.aligned⟩

theorem Windowed.of_waiting_eq_nil (sound : s.ledger.Sound) (h : s.ledger.waiting = []) :
    Windowed index o [] s := by
  refine ⟨.nil index _, by rw [h]; exact .refl _, fun scope requests hf => ?_⟩
  -- a batch is never empty, and its requests wait
  obtain ⟨r, hr⟩ := List.exists_mem_of_ne_nil _ (sound.batch hf).1
  have hwaits : r ∈ s.ledger.waiting :=
    Ledger.mem_waiting.2 (.inl ⟨_, Table.mem_entries_of_find? hf, hr⟩)
  rw [h] at hwaits
  cases hwaits

theorem filterMap_settled (due : Request → Option Completion) (window : List Request) :
    (window.map fun r =>
      (r, if s.outlook.suspensions.isValid r.context.scope then due r else none)).filterMap
        (fun p => p.2.map (p.1, ·)) = window.filterMap (s.bestowed due) := by
  rw [List.filterMap_map]
  refine List.filterMap_congr fun r _ => ?_
  dsimp only [Function.comp_apply]
  rw [bestowed, show s.outlook.suspensions = s.suspensions from rfl]
  cases s.suspensions.isValid r.context.scope <;> rfl

/-- A run of the queue delivers to the requests of the window what the window makes of them, and nothing but
what waits. -/
theorem Apart.run (answers : o.link.debuggee.AnswersBy reply)
    (numbered : o.link.debuggee.Numbered) (h : Apart index o s) (w : Windowed index o window s) :
    let s' := (performTop .run s.cleared).2
    Apart index o s' ∧ Windowed index o [] s' ∧ s'.outlook = s.outlook ∧ s'.ledger.waiting = [] ∧
      (s'.completions.filter (·.1.isElsewhere index)).Perm
        (window.filterMap (s.bestowed (o.ruling window))) ∧
      ∀ p ∈ s'.completions, p.1 ∈ s.ledger.waiting := by
  intro s'
  obtain ⟨hlast, hnone, settled, hsettled, hbestows⟩ :=
    h.cleared.bestows_runPending (w.cleared.awaits h.cleared) answers numbered
  obtain ⟨done, hdone, hmem, hfilter⟩ := hbestows.completions
  have hrun : s' = s.cleared.runPending.2 := by
    simp [s', performTop, h.cleared.isOpen]
  have hcompletions : s'.completions = done := by
    rw [hrun, hdone]
    rfl
  have hwindow : (settled.filter (·.isElsewhere index)).Perm window :=
    (hsettled.symm.filter _).trans w.waiting
  rw [hcompletions, hfilter, hrun]
  exact ⟨hlast, .of_waiting_eq_nil hlast.sound hnone, hbestows.outlook, hnone, hwindow.filterMap _,
    fun p hp => hsettled.symm.subset (hmem p hp)⟩

/-- A script in which one scope is apart delivers to the requests of all other scopes what the verdicts say,
and it delivers to none but its requests and those that waited. -/
theorem Apart.script (answers : o.link.debuggee.AnswersBy reply)
    (numbered : o.link.debuggee.Numbered) (h : Apart index o s) (w : Windowed index o window s)
    {script : List TopStep} (apart : ∀ step ∈ script, step.isApart index = true) :
    ((delivered script s).filter (·.1.isElsewhere index)).Perm
        ((o.verdicts index s.outlook window script).filterMap fun p => p.2.map (p.1, ·)) ∧
      ∀ p ∈ delivered script s, p.1 ∈ s.ledger.waiting ++ s.outlook.requests script := by
  -- a run empties the window and a step appends to it, so it is general in the induction
  induction script generalizing s window with
  | nil =>
    have hnone : (window.map fun r => (r, (none : Option Completion))).filterMap
        (fun p => p.2.map (p.1, ·)) = [] := by
      rw [List.filterMap_map]
      exact List.filterMap_eq_nil_iff.2 fun r _ => rfl
    rw [verdicts, hnone]
    exact ⟨.refl _, fun p hp => by cases hp⟩
  | cons step rest ih =>
    have hrest : ∀ step ∈ rest, step.isApart index = true :=
      fun step hs => apart step (List.mem_cons_of_mem _ hs)
    have hfirst := apart step List.mem_cons_self
    rw [delivered_cons]
    cases step with
    | run =>
      obtain ⟨hlast, hwindowed, houtlook, hnone, hsettled, hwaited⟩ := h.run answers numbered w
      obtain ⟨hdelivered, hmem⟩ := ih hlast hwindowed hrest
      rw [houtlook] at hdelivered hmem
      rw [List.filter_append, verdicts, List.filterMap_append, filterMap_settled]
      refine ⟨hsettled.append hdelivered, fun p hp => ?_⟩
      rcases List.mem_append.1 hp with hp | hp
      · exact List.mem_append_left _ (hwaited p hp)
      · have hlater := hmem p hp
        rw [hnone] at hlater
        exact List.mem_append_right _ hlater
    | step inner =>
      have hp := prepares_step h.toReady.cleared (Step.isPreparation_of_isApart hfirst)
      have hstep : (performTop (.step inner) s.cleared).2 = s.cleared.after (.step inner) :=
        performTop_eq_play (.step inner) s.cleared
      obtain ⟨hdelivered, hdeliveredMem⟩ :=
        ih (h.cleared.step hfirst) (w.cleared.step h.cleared hfirst) hrest
      rw [hp.outlook] at hdelivered hdeliveredMem
      rw [hstep, hp.completions, show s.cleared.completions = [] from rfl, List.nil_append, verdicts]
      refine ⟨hdelivered, fun p hpd => ?_⟩
      have hlater := hdeliveredMem p hpd
      rw [Outlook.requests, ← List.append_assoc]
      rcases List.mem_append.1 hlater with hlater | hlater
      · exact List.mem_append_left _ (hp.waiting.subset hlater)
      · exact List.mem_append_right _ hlater
    | _ => cases hfirst

/-! ## Outcomes -/

/-- Among the completions that verdicts stand for, a request has at most its own. -/
theorem filter_verdicts {verdicts : List (Request × Option Completion)}
    (serials : (verdicts.map (·.1.serial)).Nodup) {p : Request × Option Completion}
    (hp : p ∈ verdicts) :
    (verdicts.filterMap fun q => q.2.map (q.1, ·)).filter (·.1.serial == p.1.serial) =
      p.2.toList.map (p.1, ·) := by
  have hnone : ∀ {q : Request × Option Completion}, q.1.serial ≠ p.1.serial →
      (q.2.map (q.1, ·)).toList.filter (·.1.serial == p.1.serial) = [] := by
    intro q hne
    cases hv : q.2 <;> simp [hne]
  have hcons : ∀ (q : Request × Option Completion) rest,
      ((q :: rest).filterMap fun q => q.2.map (q.1, ·)).filter (·.1.serial == p.1.serial) =
        (q.2.map (q.1, ·)).toList.filter (·.1.serial == p.1.serial) ++
          (rest.filterMap fun q => q.2.map (q.1, ·)).filter (·.1.serial == p.1.serial) := by
    intro q rest
    rw [← List.filter_append]
    cases hv : q.2 <;> simp [hv]
  induction verdicts with
  | nil => cases hp
  | cons q rest ih =>
    obtain ⟨hnot, hrest⟩ := List.nodup_cons.1 serials
    rw [hcons]
    rcases List.mem_cons.1 hp with rfl | hp
    · have hothers : (rest.filterMap fun q => q.2.map (q.1, ·)).filter
          (·.1.serial == p.1.serial) = [] := by
        refine List.filter_eq_nil_iff.2 fun x hx hserial => hnot ?_
        obtain ⟨q, hq, hx⟩ := List.mem_filterMap.1 hx
        obtain ⟨completion, -, rfl⟩ := Option.map_eq_some_iff.1 hx
        exact List.mem_map.2 ⟨q, hq, eq_of_beq hserial⟩
      rw [hothers, List.append_nil]
      cases p.2 <;> simp
    · have hne : q.1.serial ≠ p.1.serial :=
        fun heq => hnot (List.mem_map.2 ⟨p, hp, heq.symm⟩)
      rw [hnone hne, List.nil_append, ih hrest hp]

/-- If verdicts say what was delivered to the requests for other scopes, each of these comes to its own verdict
and to nothing else. -/
theorem outcomesOf_eq {done : List (Request × Completion)}
    {verdicts : List (Request × Option Completion)}
    (said : (done.filter (·.1.isElsewhere index)).Perm
      (verdicts.filterMap fun p => p.2.map (p.1, ·)))
    (serials : (verdicts.map (·.1.serial)).Nodup) {p : Request × Option Completion}
    (hp : p ∈ verdicts) (elsewhere : p.1.isElsewhere index = true)
    (told : ∀ x ∈ done, x.1.serial = p.1.serial → x.1 = p.1) :
    outcomesOf done p.1 = p.2.toList := by
  have helsewhere : done.filter (·.1.serial == p.1.serial) =
      (done.filter (·.1.isElsewhere index)).filter (·.1.serial == p.1.serial) := by
    rw [List.filter_filter]
    refine List.filter_congr fun x hx => ?_
    cases hs : x.1.serial == p.1.serial with
    | false => rfl
    | true =>
      rw [told x hx (eq_of_beq hs), elsewhere]
      rfl
  have hown := (said.filter (·.1.serial == p.1.serial)).map (·.2)
  rw [← helsewhere, filter_verdicts serials hp, List.map_map] at hown
  cases hv : p.2 with
  | none =>
    rw [hv] at hown
    exact List.perm_nil.1 hown
  | some completion =>
    rw [hv] at hown
    exact List.perm_singleton.1 hown

/-- Every request of a script for another scope than the one apart comes to its verdict and to nothing else. -/
theorem outcomesElsewhere_eq {debuggee : Debuggee} (answers : debuggee.AnswersBy reply)
    (numbered : debuggee.Numbered) (settings : DebuggerSettings) (connection : Connection)
    {script : List TopStep} (apart : ∀ step ∈ script, step.isApart index = true) :
    let s := start debuggee settings connection
    outcomesElsewhere index script s =
      (s.verdicts index s.outlook [] script).map fun p => (p.1.unnumbered, p.2.toList) := by
  intro s
  have happart : Apart index s s :=
    ⟨(calm_start debuggee settings connection).toReady, grounded_start numbered settings connection,
      fun r hr => by cases hr⟩
  have hwindowed : Windowed index s [] s :=
    .of_waiting_eq_nil (sound_start debuggee settings connection) rfl
  obtain ⟨hperm, hmem⟩ := happart.script answers numbered hwindowed apart
  have hrequests : (s.verdicts index s.outlook [] script).map (·.1) =
      (s.outlook.requests script).filter (·.isElsewhere index) := s.map_fst_verdicts _ [] script
  -- the numbers tell the requests of the script apart
  have hserials : ((s.outlook.requests script).map (·.serial)).Nodup :=
    (List.pairwise_map.2 (s.outlook.requests_pairwise script).1).imp Nat.ne_of_lt
  have hverdicts : ((s.verdicts index s.outlook [] script).map (·.1.serial)).Nodup := by
    have hsublist := (List.filter_sublist (p := (·.isElsewhere index))
      (l := s.outlook.requests script)).map (·.serial)
    rw [← hrequests, List.map_map] at hsublist
    exact hsublist.nodup hserials
  rw [outcomesElsewhere, ← hrequests, List.map_map]
  refine List.map_congr_left fun p hp => ?_
  have hp' := List.mem_map_of_mem (f := (·.1)) hp
  rw [hrequests, List.mem_filter] at hp'
  have houtcomes := outcomesOf_eq hperm hverdicts hp hp'.2 fun x hx =>
    List.inj_on_of_nodup_map hserials (hmem x hx) hp'.1
  exact congrArg (p.1.unnumbered, ·) houtcomes

/-- For a helper that replies to the elements alone, two scripts that differ only in what they do with one scope
deliver the same to the requests of every other scope: each of them comes to the same use of a sink in both, or
to none. Only the sinks of the one scope may panic, and in one script they may do so where in the other one they
do not. -/
theorem noninterference (debuggee : Debuggee) (settings : DebuggerSettings) (connection : Connection)
    (reply : List Value → HandlerReply) (answers : debuggee.AnswersBy reply)
    (numbered : debuggee.Numbered) (index : Nat) (first second : List TopStep)
    (apart : ∀ step ∈ first ++ second, step.isApart index = true)
    (same : first.filter (!·.concerns index) = second.filter (!·.concerns index)) :
    let s := start debuggee settings connection
    outcomesElsewhere index first s = outcomesElsewhere index second s ∧
      ∀ p ∈ outcomesElsewhere index first s, p.2.length ≤ 1 := by
  intro s
  have hagrees : s.outlook.Agrees index s.outlook :=
    ⟨rfl, (fun _ _ hs => by cases hs), rfl, fun _ _ => Iff.rfl, rfl⟩
  have hwithout : ∀ script : List TopStep, (∀ step ∈ script, step.isApart index = true) →
      outcomesElsewhere index script s =
        (s.verdicts index s.outlook [] (script.filter (!·.concerns index))).map
          fun p => (p.1.unnumbered, p.2.toList) := by
    intro script hscript
    have hverdicts := congrArg (List.map fun p : Request × Option Completion =>
      (p.1, p.2.toList)) (verdicts_without (o := s) hagrees rfl (.nil index _) (.nil index _) hscript)
    rw [List.map_map, List.map_map] at hverdicts
    exact (outcomesElsewhere_eq answers numbered settings connection hscript).trans hverdicts
  have hfirst := hwithout first fun step hs => apart step (List.mem_append_left _ hs)
  have hsecond := hwithout second fun step hs => apart step (List.mem_append_right _ hs)
  refine ⟨by rw [hfirst, hsecond, same], fun p hp => ?_⟩
  rw [hfirst] at hp
  obtain ⟨q, -, rfl⟩ := List.mem_map.1 hp
  exact Option.length_toList_le

theorem answersBy_withHelper : Debuggee.withHelper.AnswersBy fun elements =>
    CannedReply.answer elements
      (.perElement (Table.empty.put "13" "java.lang.IllegalStateException") .empty) := by
  refine ⟨fun handler hh n elements => ?_, fun elements v => by rw [CannedReply.answer]; exact nofun⟩
  obtain rfl := Option.some.inj hh
  cases n <;> rfl

/-- Two stops with an object for the second one before and after what is done with the first. -/
def aroundFirstScope (between : List TopStep) : List TopStep :=
  [.step (.suspend 0 (some 1)), .step (.suspend 0 (some 2)),
    .step (.submit ⟨"a", .object 76 3, ⟨1, none, none⟩, ⟨[], [], [], none⟩⟩)] ++ between ++
  [.step (.submit ⟨"b", .object 76 13, ⟨1, none, none⟩, ⟨[], [], [], none⟩⟩), .run]

/-- An object of the first stop whose sink panics, or another one that comes to nothing. -/
theorem noninterference_panickingSink :
    let s := start .withHelper {} .localProcess
    let panics := aroundFirstScope
      [.step (.submit ⟨"c", .object 76 2, ⟨0, none, none⟩,
        ⟨[], [], [], some (.text "no more")⟩⟩)]
    let ends := aroundFirstScope
      [.step (.submit ⟨"d", .object 76 5, ⟨0, none, none⟩, ⟨[], [], [], none⟩⟩),
        .step (.invalidate 0)]
    (outcomesElsewhere 0 panics s).map (fun p => (p.1.label, p.2.length)) = [("a", 1), ("b", 1)] ∧
      (delivered panics s).length = 3 ∧ (delivered ends s).length = 2 ∧
      outcomesElsewhere 0 panics s = outcomesElsewhere 0 ends s := by
  intro s panics ends
  refine ⟨by decide +kernel, by decide +kernel, by decide +kernel, ?_⟩
  exact (noninterference .withHelper {} .localProcess _ answersBy_withHelper (by decide +kernel) 0
    panics ends (by decide) rfl).1

end BatchStringify.Session
