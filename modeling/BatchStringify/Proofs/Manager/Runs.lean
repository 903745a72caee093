import BatchStringify.Proofs.Manager.Machine

/-!
# Runs of a manager

Whatever is done in whatever order, the queue counts all senders, also those that commands carry, and the state
of the thread is that of the commands executed so far (`Sound`). From this follows what can be said of every
run: commands are executed in the order in which they were sent, none is forgotten when the thread ends, and
the thread ends as soon as the queue is empty and the last sender that keeps it open is gone, however many
there are that do not.
-/

namespace BatchStringify

namespace Manager

variable {κ ω σ : Type}

@[simp] theorem carried_nil : carried ([] : List (Parcel κ)) = 0 := rfl

@[simp] theorem carried_cons (parcel : Parcel κ) (rest : List (Parcel κ)) :
    carried (parcel :: rest) = parcel.senders + carried rest := rfl

@[simp] theorem carried_append (first second : List (Parcel κ)) :
    carried (first ++ second) = carried first + carried second := by
  induction first with
  | nil => simp
  | cons parcel rest ih => rw [List.cons_append, carried_cons, ih, carried_cons, Nat.add_assoc]

/-- The commands that were ever sent, in the order in which they were sent. -/
def sent (m : Manager κ ω σ) : List κ := m.queue.sent.map (·.command)

/-- What holds between any two acts of a run that began with a given state. -/
structure Sound (w : Workload κ ω σ) (initial : σ) (m : Manager κ ω σ) : Prop where
  counted : m.queue.senders = m.strong
  idle : m.job = none → m.inHand = 0
  order : m.executed.map (·.command) ++
    (m.job.toList.map (·.command) ++ m.queue.waiting.map (·.command)) = m.sent
  state : m.state = m.executed.foldl w.apply initial
  isOpen : m.exited = false → m.queue.isOpen = true
  ended : m.exited = true → m.job = none ∧ m.queue.waiting = [] ∧ m.strong = 0

/-- What an act can do to a manager whose queue counts all senders. -/
inductive Effect (w : Workload κ ω σ) (m : Manager κ ω σ) : Act κ ω → Manager κ ω σ → Prop where
  | handle (handling : Handling) (senders inHand elsewhere weak : Nat)
    (counted : senders = inHand + elsewhere + carried m.queue.waiting)
    (idle : m.job = none → inHand = 0) (revoked : m.strong = 0 → senders = 0) :
    Effect w m (.handle handling)
      { m with
        queue := { m.queue with senders := senders }
        inHand := inHand
        elsewhere := elsewhere
        weak := weak }
  /-- The sender that sends stays where it is. -/
  | send (holder : Holder) (command : κ) (senders inHand elsewhere : Nat)
    (kept : 0 < inHand + elsewhere)
    (balance : inHand + elsewhere + senders = m.inHand + m.elsewhere)
    (idle : m.job = none → inHand = 0) :
    Effect w m (.send holder command senders)
      { m with
        queue := m.queue.send ⟨command, senders⟩
        inHand := inHand
        elsewhere := elsewhere }
  | scope (call : ScopeCall) :
    Effect w m (.scope call) { m with suspensions := m.suspensions.call call }
  | take (parcel : Parcel κ) (rest : List (Parcel κ)) (idle : m.job = none)
    (waiting : m.queue.waiting = parcel :: rest) :
    Effect w m .take
      { m with
        queue := { m.queue with waiting := rest }
        inHand := parcel.senders
        job := some ⟨parcel.command, w.isCancelled m.suspensions parcel.command⟩ }
  | finish (seen : ω) (job : Job κ) (atHand : m.job = some job) (used : m.inHand = 0) :
    Effect w m (.finish seen)
      { m with
        state := w.execute job.cancelled job.command seen m.state
        job := none
        executed := m.executed ++ [⟨job.command, job.cancelled, seen⟩] }
  | exit (idle : m.job = none) (running : m.exited = false) (empty : m.queue.waiting = [])
    (alone : m.queue.senders = 0) :
    Effect w m .exit { m with queue := m.queue.close, exited := true }

variable {w : Workload κ ω σ} {initial : σ} {m m' : Manager κ ω σ}

/-! ## One act -/

/-- What one holder has is part of all strong senders. -/
theorem held_le_strong (holder : Holder) : m.held holder ≤ m.strong := by
  cases holder <;> simp only [held, strong] <;> omega

/-- Who holds a sender is there. -/
theorem isPresent_of_held (idle : m.job = none → m.inHand = 0) {holder : Holder}
    (h : 0 < m.held holder) : m.isPresent holder = true := by
  cases holder with
  | elsewhere => rfl
  | command =>
    rw [isPresent, Option.isSome_iff_ne_none]
    exact fun hj => Nat.ne_of_gt h (idle hj)

/-- A holder that is there gets or drops senders, and the queue counts along. -/
theorem effect_withHeld {handling : Handling} {holder : Holder} {senders n : Nat}
    (counted : m.queue.senders = m.strong) (idle : m.job = none → m.inHand = 0)
    (isPresent : m.isPresent holder = true) (some_left : 0 < m.queue.senders)
    (balance : senders + m.held holder = m.queue.senders + n) :
    Effect w m (.handle handling)
      ({ m with queue := { m.queue with senders := senders } }.withHeld n holder) := by
  rw [counted] at some_left balance
  cases holder with
  | command =>
    simp only [held, strong] at balance
    refine .handle handling _ n m.elsewhere m.weak (by omega) (fun hj => ?_) fun h0 => by omega
    rw [Manager.isPresent, hj] at isPresent
    cases isPresent
  | elsewhere =>
    simp only [held, strong] at balance
    exact .handle handling _ m.inHand n m.weak (by omega) idle fun h0 => by omega

/-- The number of senders that do not keep the queue open is counted nowhere else. -/
theorem effect_weak {handling : Handling} (counted : m.queue.senders = m.strong)
    (idle : m.job = none → m.inHand = 0) (n : Nat) :
    Effect w m (.handle handling) { m with weak := n } :=
  .handle handling m.queue.senders m.inHand m.elsewhere n counted idle fun h0 => counted.trans h0

/-- Copying, weakening, passing on and dropping senders keep the count of the queue right. -/
theorem effect_of_handle {handling : Handling} (counted : m.queue.senders = m.strong)
    (idle : m.job = none → m.inHand = 0) (h : m.handle handling = some m') :
    Effect w m (.handle handling) m' := by
  cases handling with
  | clone holder =>
    obtain ⟨hheld, ⟨⟩⟩ := Option.ite_none_right_eq_some.1 h
    have hle := m.held_le_strong holder
    exact effect_withHeld counted idle (isPresent_of_held idle hheld) (by omega)
      (by omega)
  | drop holder =>
    obtain ⟨hheld, ⟨⟩⟩ := Option.ite_none_right_eq_some.1 h
    have hle := m.held_le_strong holder
    exact effect_withHeld counted idle (isPresent_of_held idle hheld) (by omega)
      (by omega)
  | pass holder =>
    obtain ⟨⟨hheld, hjob⟩, ⟨⟩⟩ := Option.ite_none_right_eq_some.1 h
    have hidle : ∀ n, m.job = none → n = 0 := fun n hj => by simp [hj] at hjob
    rw [strong] at counted
    cases holder with
    | command =>
      simp only [held] at hheld
      exact .handle _ m.queue.senders _ _ m.weak (by omega) (hidle _) fun h0 => by
        rw [strong] at h0
        omega
    | elsewhere =>
      simp only [held] at hheld
      exact .handle _ m.queue.senders _ _ m.weak (by omega) (hidle _) fun h0 => by
        rw [strong] at h0
        omega
  | downgrade holder =>
    obtain ⟨-, ⟨⟩⟩ := Option.ite_none_right_eq_some.1 h
    exact effect_weak counted idle _
  | cloneWeak =>
    obtain ⟨-, ⟨⟩⟩ := Option.ite_none_right_eq_some.1 h
    exact effect_weak counted idle _
  | dropWeak =>
    obtain ⟨-, ⟨⟩⟩ := Option.ite_none_right_eq_some.1 h
    exact effect_weak counted idle _
  | upgrade holder =>
    obtain ⟨⟨-, hpresent⟩, h⟩ := Option.ite_none_right_eq_some.1 h
    obtain ⟨queue, hqueue, rfl⟩ := Option.map_eq_some_iff.1 h
    obtain ⟨hsender, ⟨⟩⟩ := Option.ite_none_right_eq_some.1 hqueue
    exact effect_withHeld counted idle hpresent (of_decide_eq_true hsender)
      (by omega)

/-- Every act has one of the effects. -/
theorem effect_of_step {act : Act κ ω} (counted : m.queue.senders = m.strong)
    (idle : m.job = none → m.inHand = 0) (h : w.step m act = some m') : Effect w m act m' := by
  cases act with
  | handle handling => exact effect_of_handle counted idle h
  | send holder command senders =>
    obtain ⟨hheld, ⟨⟩⟩ := Option.ite_none_right_eq_some.1 h
    have hpresent : m.isPresent holder = true := isPresent_of_held idle (by omega)
    cases holder with
    | command =>
      simp only [held] at hheld
      refine .send _ _ _ _ m.elsewhere (by simp only [held]; omega) (by simp only [held]; omega) ?_
      intro hj
      rw [isPresent, hj] at hpresent
      cases hpresent
    | elsewhere =>
      simp only [held] at hheld
      exact .send _ _ _ m.inHand _ (by simp only [held]; omega) (by simp only [held]; omega) idle
  | scope call =>
    obtain rfl := Option.some.inj h
    exact .scope call
  | take =>
    obtain ⟨hjob, h⟩ := Option.ite_none_right_eq_some.1 h
    obtain ⟨⟨parcel, queue⟩, hreceived, rfl⟩ := Option.map_eq_some_iff.1 h
    cases hw : m.queue.waiting with
    | nil => simp [CommandQueue.receive?, hw] at hreceived
    | cons first rest =>
      simp only [CommandQueue.receive?, hw, Option.some.injEq, Prod.mk.injEq] at hreceived
      obtain ⟨rfl, rfl⟩ := hreceived
      exact .take first rest (Option.isNone_iff_eq_none.1 hjob) hw
  | finish seen =>
    obtain ⟨hused, h⟩ := Option.ite_none_right_eq_some.1 h
    obtain ⟨job, hjob, rfl⟩ := Option.map_eq_some_iff.1 h
    exact .finish seen job hjob hused
  | exit =>
    obtain ⟨⟨hjob, hrunning, hdrained⟩, ⟨⟩⟩ := Option.ite_none_right_eq_some.1 h
    simp only [isDrained, CommandQueue.hasSender, Bool.and_eq_true, List.isEmpty_iff,
      Bool.not_eq_true', decide_eq_false_iff_not, Nat.not_lt, Nat.le_zero] at hdrained
    exact .exit (Option.isNone_iff_eq_none.1 hjob) hrunning hdrained.1 hdrained.2

/-- What holds between acts is kept by every act. -/
theorem Sound.effect {act : Act κ ω} (hs : Sound w initial m) (effect : Effect w m act m') :
    Sound w initial m' := by
  have hcounted : m.queue.senders = m.inHand + m.elsewhere + carried m.queue.waiting := hs.counted
  cases effect with
  | handle handling senders inHand elsewhere weak counted idle revoked =>
    refine ⟨counted, idle, hs.order, hs.state, hs.isOpen, fun hx => ?_⟩
    obtain ⟨hjob, hwaiting, hstrong⟩ := hs.ended hx
    refine ⟨hjob, hwaiting, ?_⟩
    rw [strong, ← counted]
    exact revoked hstrong
  | send holder command senders inHand elsewhere kept balance idle =>
    -- the worker exits only when no strong sender is left, and the holder has one
    have hrunning : m.exited = false := by
      rw [Bool.eq_false_iff]
      intro hx
      obtain ⟨-, -, hstrong⟩ := hs.ended hx
      rw [strong] at hstrong
      omega
    have hopen := hs.isOpen hrunning
    refine ⟨?_, idle, ?_, hs.state, fun _ => hopen, fun hx => ?_⟩
    · simp only [strong, CommandQueue.send, hopen, if_true, carried_append, carried_cons, carried_nil]
      omega
    · have horder := hs.order
      simp only [sent, CommandQueue.send, hopen, if_true, List.map_append] at horder ⊢
      rw [← horder]
      simp
    · rw [hrunning] at hx
      cases hx
  | scope call => exact ⟨hs.counted, hs.idle, hs.order, hs.state, hs.isOpen, hs.ended⟩
  | take parcel rest idle waiting =>
    -- the senders of the parcel move from the queue into the hands of the command
    have hinHand := hs.idle idle
    have hrunning : m.exited ≠ true := fun hx => by
      simp [(hs.ended hx).2.1] at waiting
    refine ⟨?_, (nomatch ·), ?_, hs.state, hs.isOpen, fun hx => absurd hx hrunning⟩
    · rw [waiting, carried_cons] at hcounted
      simp only [strong]
      omega
    · have horder := hs.order
      rw [idle, waiting] at horder
      exact horder
  | finish seen job atHand used =>
    have hrunning : m.exited ≠ true := fun hx => by
      simp [(hs.ended hx).1] at atHand
    refine ⟨hs.counted, fun _ => used, ?_, ?_, hs.isOpen, fun hx => absurd hx hrunning⟩
    · have horder := hs.order
      rw [atHand] at horder
      rw [List.map_append, List.append_assoc]
      exact horder
    · rw [List.foldl_append, ← hs.state]
      rfl
  | exit idle running empty alone =>
    have hstrong : m.inHand + m.elsewhere = 0 := by omega
    refine ⟨?_, hs.idle, ?_, hs.state, fun hx => ?_, fun _ => ⟨idle, rfl, hstrong⟩⟩
    · exact alone.trans hstrong.symm
    · have horder := hs.order
      rw [empty] at horder
      exact horder
    · cases hx

/-- An act keeps what holds between acts. -/
theorem Sound.step {act : Act κ ω} (hs : Sound w initial m) (h : w.step m act = some m') :
    Sound w initial m' := hs.effect (effect_of_step hs.counted hs.idle h)

/-- What every effect on a sound manager keeps is kept by runs. -/
theorem Sound.keep {P : Manager κ ω σ → Prop} {acts : List (Act κ ω)} (hs : Sound w initial m)
    (h : w.run acts m = some m')
    (effect : ∀ act t t', Sound w initial t → Effect w t act t' → P t → P t') (start : P m) :
    P m' := by
  induction acts generalizing m with
  | nil =>
    obtain rfl := Option.some.inj h
    exact start
  | cons act rest ih =>
    obtain ⟨t, ht, h⟩ := Workload.exists_of_run_cons h
    have hfirst := effect act m t hs (effect_of_step hs.counted hs.idle ht) start
    exact ih (hs.step ht) h hfirst

/-- So does a run. -/
theorem Sound.run {acts : List (Act κ ω)} (hs : Sound w initial m) (h : w.run acts m = some m') :
    Sound w initial m' :=
  hs.keep (P := Sound w initial) h (fun _ _ _ ht effect _ => ht.effect effect) hs

/-- At the start of a thread all of this holds. -/
theorem sound_spawn (parcels : List (Parcel κ)) (elsewhere weak : Nat) (u : Suspensions) :
    Sound w initial (spawn parcels elsewhere weak u initial) where
  counted := by simp only [spawn, strong, Nat.zero_add]
  idle _ := rfl
  order := rfl
  state := rfl
  isOpen _ := rfl
  ended hx := by cases hx

/-! ## Decisions -/

/-- What was decided about commands: those that were executed, and the one at hand. -/
def decided (m : Manager κ ω σ) : List (κ × Bool) :=
  m.executed.map (fun e => (e.command, e.cancelled)) ++
    m.job.toList.map fun job => (job.command, job.cancelled)

/-- What was decided about commands grows by what an act takes. -/
theorem decided_effect {act : Act κ ω} (effect : Effect w m act m') :
    m'.decided = m.decided ++ w.takingsAt m act := by
  cases effect with
  | take parcel rest idle waiting => simp [decided, Workload.takingsAt, idle, waiting]
  | finish seen job atHand used => simp [decided, Workload.takingsAt, atHand]
  | _ => exact (List.append_nil _).symm

/-- Over a run it grows by all that was taken, in order. -/
theorem decided_run {acts : List (Act κ ω)} (hs : Sound w initial m) (h : w.run acts m = some m') :
    m'.decided = m.decided ++ w.takings acts m := by
  induction acts generalizing m with
  | nil =>
    obtain rfl := Option.some.inj h
    exact (List.append_nil _).symm
  | cons act rest ih =>
    obtain ⟨t, ht, h⟩ := Workload.exists_of_run_cons h
    rw [ih (hs.step ht) h, decided_effect (effect_of_step hs.counted hs.idle ht), Workload.takings,
      ht, List.append_assoc]
    rfl

/-! ## The end -/

/-- No sender comes back, be it from one that does not keep the queue open. -/
theorem strong_run {acts : List (Act κ ω)} (hs : Sound w initial m) (gone : m.strong = 0)
    (h : w.run acts m = some m') : m'.strong = 0 := by
  refine hs.keep (P := fun t => t.strong = 0) h (fun act t t' ht effect gone => ?_) gone
  have hstrong : t.inHand + t.elsewhere + carried t.queue.waiting = 0 := gone
  cases effect with
  | handle handling senders inHand elsewhere weak counted idle revoked =>
    exact counted.symm.trans (revoked gone)
  | send holder command senders inHand elsewhere kept balance idle => omega
  | scope call => exact gone
  | take parcel rest idle waiting =>
    rw [waiting, carried_cons] at hstrong
    simp only [strong]
    omega
  | finish seen job atHand used => exact gone
  | exit idle running empty alone =>
    simp only [strong, CommandQueue.close, carried_nil]
    omega

/-- Nothing of what the thread leaves behind changes any more. -/
theorem ended_run {acts : List (Act κ ω)} (hs : Sound w initial m) (exited : m.exited = true)
    (h : w.run acts m = some m') :
    m'.exited = true ∧ m'.state = m.state ∧ m'.executed = m.executed := by
  refine hs.keep (P := fun t => t.exited = true ∧ t.state = m.state ∧ t.executed = m.executed) h
    (fun act t t' ht effect left => ?_) ⟨exited, rfl, rfl⟩
  obtain ⟨hjob, hwaiting, hstrong⟩ := ht.ended left.1
  rw [strong] at hstrong
  cases effect with
  | handle handling senders inHand elsewhere weak counted idle revoked => exact left
  | send holder command senders inHand elsewhere kept balance idle => omega
  | scope call => exact left
  | take parcel rest idle waiting => simp [hwaiting] at waiting
  | finish seen job atHand used => simp [hjob] at atHand
  | exit idle running empty alone => simp [left.1] at running

/-- When the thread can end: how many senders there are that do not keep the queue open does not matter. -/
theorem Sound.isSome_exit_iff (hs : Sound w initial m) : (w.step m .exit).isSome = true ↔
    m.exited = false ∧ m.job = none ∧ m.queue.waiting = [] ∧ m.strong = 0 := by
  have hdrained : m.isDrained = true ↔ m.queue.waiting = [] ∧ m.strong = 0 := by
    rw [isDrained, CommandQueue.hasSender, hs.counted]
    simp
  rw [Workload.step, Option.isSome_ite, hdrained, Option.isNone_iff_eq_none]
  exact ⟨fun ⟨hj, hx, hw, h0⟩ => ⟨hx, hj, hw, h0⟩, fun ⟨hx, hj, hw, h0⟩ => ⟨hj, hx, hw, h0⟩⟩

/-- The command at hand drops some of its senders. -/
theorem run_drops {n : Nat} (h : n ≤ m.inHand) :
    w.run (List.replicate n (.handle (.drop .command))) m = some { m with
      queue := { m.queue with senders := m.queue.senders - n }
      inHand := m.inHand - n } := by
  induction n generalizing m with
  | zero => rfl
  | succ n ih =>
    have hfirst : w.step m (.handle (.drop .command)) = some { m with
        queue := { m.queue with senders := m.queue.senders - 1 }
        inHand := m.inHand - 1 } := if_pos (Nat.lt_of_lt_of_le n.succ_pos h)
    rw [List.replicate_succ, Workload.run_cons, hfirst, Option.bind_some, ih (Nat.le_sub_one_of_lt h)]
    simp only [Nat.sub_sub, Nat.add_comm 1 n]

/-- The command at hand comes to its end if it drops its senders. -/
theorem run_finish {job : Job κ} (atHand : m.job = some job) (seen : ω) :
    w.run (List.replicate m.inHand (.handle (.drop .command)) ++ [.finish seen]) m = some { m with
      queue := { m.queue with senders := m.queue.senders - m.inHand }
      inHand := 0
      state := w.execute job.cancelled job.command seen m.state
      job := none
      executed := m.executed ++ [⟨job.command, job.cancelled, seen⟩] } := by
  rw [Workload.run_append, run_drops (Nat.le_refl _), Option.bind_some, Workload.run_cons]
  simp [Workload.step, atHand]

/-- Dropping what a command has left in its hand and finishing it is up to the thread alone. -/
theorem isWorker_finish (m : Manager κ ω σ) (seen : ω) :
    ∀ act ∈ List.replicate m.inHand (.handle (.drop .command)) ++ [(.finish seen : Act κ ω)],
      act.isWorker = true := by
  intro act hact
  rcases List.mem_append.1 hact with hact | hact
  · rw [List.eq_of_mem_replicate hact]
    rfl
  · rw [List.mem_singleton.1 hact]
    rfl

/-- Whether the thread can come to its end alone, whatever senders there are that do not keep the queue
open. -/
def CanEnd (w : Workload κ ω σ) (m : Manager κ ω σ) : Prop :=
  ∃ acts m', (∀ act ∈ acts, act.isWorker = true) ∧ w.run acts m = some m' ∧ m'.exited = true ∧
    m'.weak = m.weak

/-- Where the thread can end after acts of its own, it can end before them. -/
theorem CanEnd.after {acts : List (Act κ ω)} {t : Manager κ ω σ} (h : CanEnd w t)
    (own : ∀ act ∈ acts, act.isWorker = true) (run : w.run acts m = some t)
    (weak : t.weak = m.weak) : CanEnd w m := by
  obtain ⟨more, m', hmore, hrun, hexited, hweak⟩ := h
  refine ⟨acts ++ more, m', ?_, Workload.run_trans run hrun, hexited, hweak.trans weak⟩
  intro act hact
  rcases List.mem_append.1 hact with hact | hact
  · exact own act hact
  · exact hmore act hact

/-- An idle thread can execute what waits and end, if nobody else holds a sender. -/
theorem canEnd_of_idle (seen : ω) (hs : Sound w initial m) (running : m.exited = false)
    (elsewhere : m.elsewhere = 0) (idle : m.job = none) : CanEnd w m := by
  induction hw : m.queue.waiting generalizing m with
  | nil =>
    have hstrong : m.strong = 0 := by simp [strong, hs.idle idle, elsewhere, hw]
    obtain ⟨t, ht⟩ := Option.isSome_iff_exists.1 (hs.isSome_exit_iff.2 ⟨running, idle, hw, hstrong⟩)
    refine ⟨[.exit], t, by simp [Act.isWorker], (Workload.run_singleton _).trans ht, ?_⟩
    cases effect_of_step hs.counted hs.idle ht with
    | exit => exact ⟨rfl, rfl⟩
  | cons parcel rest ih =>
    have htake : w.run [.take] m = some { m with
        queue := { m.queue with waiting := rest }
        inHand := parcel.senders
        job := some ⟨parcel.command, w.isCancelled m.suspensions parcel.command⟩ } := by
      simp [Workload.step, idle, CommandQueue.receive?, hw]
    have hfinish := Workload.run_trans htake (run_finish rfl seen)
    refine CanEnd.after (ih (hs.run hfinish) running elsewhere rfl rfl) ?_ hfinish rfl
    exact List.forall_mem_cons.2 ⟨rfl, isWorker_finish _ seen⟩

/-- If all senders are gone but those that commands have, the thread comes to its end as soon as these commands
have done their work, and others have nothing to do for it. -/
theorem canEnd (seen : ω) (hs : Sound w initial m) (running : m.exited = false)
    (elsewhere : m.elsewhere = 0) : CanEnd w m := by
  cases hj : m.job with
  | none => exact canEnd_of_idle seen hs running elsewhere hj
  | some job =>
    have hfinish := run_finish (w := w) hj seen
    exact CanEnd.after (canEnd_of_idle seen (hs.run hfinish) running elsewhere rfl)
      (isWorker_finish m seen) hfinish rfl

/-! ## Whole runs -/

/-- What can be said of a manager that some acts led to. -/
structure Refines (w : Workload κ ω σ) (initial : Manager κ ω σ) (acts : List (Act κ ω))
    (m : Manager κ ω σ) : Prop where
  /-- Commands are executed in the order in which they were sent, and none is lost. -/
  order : m.executed.map (·.command) ++
    (m.job.toList.map (·.command) ++ m.queue.waiting.map (·.command)) = m.sent
  /-- Whether they are cancelled was decided when they were taken. -/
  decided : m.decided = w.takings acts initial
  state : m.state = m.executed.foldl w.apply initial.state
  /-- Once the thread has ended, waiting for it gives its state, and it has executed all commands that were
  ever sent. -/
  joined : m.exited = true → ∀ later m', w.run later m = some m' →
    m'.join? = some m.state ∧ m.executed.map (·.command) = m'.sent
  exit_iff : (w.step m .exit).isSome = true ↔
    m.exited = false ∧ m.job = none ∧ m.queue.waiting = [] ∧ m.strong = 0
  /-- Neither a sender that does not keep the queue open nor one that a command carries has to be dropped by
  others for the thread to end. -/
  canEnd : ω → m.exited = false → m.elsewhere = 0 → CanEnd w m
  /-- Once no sender is left, none can be made any more. -/
  revoked : m.strong = 0 → ∀ later m', w.run later m = some m' →
    m'.strong = 0 ∧ m'.queue.upgrade? = none

/-- Every run of a manager refines the queue. -/
theorem refines_run {parcels : List (Parcel κ)} {elsewhere weak : Nat} {u : Suspensions}
    {acts : List (Act κ ω)} (h : w.run acts (.spawn parcels elsewhere weak u initial) = some m) :
    Refines w (.spawn parcels elsewhere weak u initial) acts m := by
  have hstart : Sound w initial (.spawn parcels elsewhere weak u initial) :=
    sound_spawn parcels elsewhere weak u
  have hs := hstart.run h
  refine ⟨hs.order, decided_run hstart h, hs.state, ?_, hs.isSome_exit_iff,
    fun seen running elsewhere => canEnd seen hs running elsewhere, ?_⟩
  · intro hexited later m' hrun
    have hs' := hs.run hrun
    obtain ⟨hexited', hstate, hexecuted⟩ := ended_run hs hexited hrun
    obtain ⟨hjob, hwaiting, -⟩ := hs'.ended hexited'
    refine ⟨by rw [join?, if_pos hexited', hstate], ?_⟩
    have horder := hs'.order
    rw [hjob, hwaiting, hexecuted] at horder
    simpa using horder
  · intro hnone later m' hrun
    have hgone := strong_run hs hnone hrun
    refine ⟨hgone, ?_⟩
    rw [CommandQueue.upgrade?, CommandQueue.hasSender, (hs.run hrun).counted, hgone]
    rfl

end Manager
end BatchStringify
