import BatchStringify.Proofs.Order.Lanes
import BatchStringify.Proofs.Probing

/-!
# Runs keep the lanes in order

A submission puts its request at the end of the lane of its scope, or into the batch of the flush there.
Which of the two depends on the answer of the probe, and an answer that batches can be evaluated holds until
the end of the debuggee is reported: so a single object never comes to stand behind a flush. Everything else
that happens in a run leaves the lane alone or takes its first task (`orderly_play`).
-/

namespace BatchStringify.Session

variable {scope : Scope} {past : List (List Request)} {s u : Session} {request : Request}

/-! ## Submissions -/

/-- A task that is sent goes to the end of an open queue. -/
theorem exists_invoke (s : Session) (task : Task) :
    ∃ queue link, s.invoke task = { s with queue := queue, link := link } ∧
      queue.isOpen = s.queue.isOpen ∧
      queue.waiting = s.queue.waiting ++ if s.queue.isOpen then [task] else [] := by
  cases ho : s.queue.isOpen with
  | true =>
    rw [invoke_of_open ho]
    exact ⟨s.queue.send task, s.link, rfl, ho, by simp [CommandQueue.send, ho]⟩
  | false =>
    rw [invoke_of_closed ho]
    exact ⟨s.queue.send task, s.link.note .commandDropped, rfl, ho, by simp [CommandQueue.send, ho]⟩

/-- A session that has accepted a request and has yet to put it on its way. -/
structure Receives (s : Session) (request : Request) (u : Session) : Prop extends
    Accepts s request u where
  queue : u.queue = s.queue
  pending : u.pending = s.pending

/-- A submission begins by noting its request. -/
theorem receives_record (serial_eq : request.serial = s.made) :
    Receives s request (({ s with made := s.made + 1 } : Session).record (.accepted request)) :=
  ⟨⟨serial_eq, rfl, congrArg Ledger.accepted (ledger_record_accepted _ request), rfl, rfl, id⟩,
    rfl, rfl⟩

/-- Looking for the helper leaves the request to be put on its way. -/
theorem Receives.askProbe (h : Receives s request u) (context : Context) :
    Receives s request (u.askProbe context).2 := by
  have haccepted := congrArg Ledger.accepted (u.ledger_askProbe context)
  obtain ⟨probe, link, hask, -, hknown, -⟩ := u.exists_askProbe context
  rw [hask] at haccepted ⊢
  refine ⟨⟨h.serial_eq, h.made, haccepted.trans h.accepted, h.suspensions, h.settings,
    fun hallows => ?_⟩, h.queue, h.pending⟩
  rw [hknown (h.allows hallows)]
  exact h.allows hallows

/-- Sending a task leaves the request accepted. -/
theorem Accepts.invoke (h : Accepts s request u) (task : Task) :
    Accepts s request (u.invoke task) := by
  have haccepted := congrArg Ledger.accepted (u.ledger_invoke task)
  obtain ⟨queue, link, hsent, -⟩ := u.exists_invoke task
  rw [hsent] at haccepted ⊢
  exact ⟨h.serial_eq, h.made, haccepted.trans h.accepted, h.suspensions, h.settings, h.allows⟩

/-- A task that is sent joins the lane of its own scope only, and not if the queue is closed. -/
theorem lane_invoke (s : Session) (task : Task) (scope : Scope) :
    (s.invoke task).lane scope =
      s.lane scope ++ if s.queue.isOpen ∧ task.servedScope? = some scope then [task] else [] := by
  obtain ⟨queue, link, hsent, -, hwaiting⟩ := s.exists_invoke task
  rw [hsent]
  by_cases ho : s.queue.isOpen = true <;> by_cases hserves : task.servedScope? = some scope <;>
    simp [lane, hwaiting, ho, hserves]

/-- A closed queue stays empty, whatever is sent to it. -/
theorem empty_invoke (h : s.queue.isOpen = false → s.queue.waiting = []) (task : Task) :
    (s.invoke task).queue.isOpen = false → (s.invoke task).queue.waiting = [] := by
  obtain ⟨queue, link, hsent, hopen, hwaiting⟩ := s.exists_invoke task
  rw [hsent]
  intro hclosed
  replace hclosed : s.queue.isOpen = false := hopen.symm.trans hclosed
  show queue.waiting = []
  rw [hwaiting, h hclosed, hclosed]
  rfl

/-- A queue that something waits in is open. -/
theorem Orderly.isOpen_of_mem (h : Orderly scope past s) {task : Task}
    (ht : task ∈ s.queue.waiting) : s.queue.isOpen = true := by
  by_contra hclosed
  rw [h.empty (Bool.eq_false_iff.2 hclosed)] at ht
  cases ht

/-- Batches of other scopes are none of the business of a lane, and in a closed queue there is none. -/
theorem Orderly.carried_put {s' : Session} (h : Orderly scope past s) (hs : s.ledger.Sound)
    {other : Scope} (known : other ∈ s.suspensions.scopes)
    (elsewhere : ¬(s.queue.isOpen = true ∧ other = scope)) {batch : List Request}
    (pending : s'.pending = s.pending.put other.id batch) :
    ∀ task ∈ s.lane scope, s'.carried task = s.carried task := by
  intro task ht
  obtain ⟨hwaits, hserves⟩ := mem_lane.1 ht
  have hopen := h.isOpen_of_mem hwaits
  cases task with
  | flush context =>
    have hscope : context.scope = scope := Option.some.inj hserves
    have hflush : context.scope ∈ s.suspensions.scopes :=
      hs.flushes_mem _ (List.mem_filterMap.2 ⟨_, hwaits, rfl⟩)
    have hne : context.scope.id ≠ other.id := fun hid =>
      elsewhere ⟨hopen, (hs.scope_inj hflush known hid).symm.trans hscope⟩
    simp only [carried, pending, Table.find?_put_of_ne _ _ hne]
  | individual request => rfl
  | command command place => rfl

/-- A request with a task of its own keeps the order, since objects get one only while no flush waits. -/
theorem Orderly.individual (h : Orderly scope past s) (receives : Receives s request u)
    (unbatched : request.value.objectId?.isSome = true →
      ¬(s.probe.allows = true ∧ s.settings.batchEvaluation = true)) :
    Orderly scope past (u.invoke (.individual request)) := by
  have haccepts := receives.toAccepts.invoke (.individual request)
  have hlane := u.lane_invoke (.individual request) scope
  have hempty := empty_invoke (receives.queue.symm ▸ h.empty) (.individual request)
  obtain ⟨queue, link, hsent, hopen, -⟩ := u.exists_invoke (.individual request)
  have hcarried : ∀ task ∈ s.lane scope,
      (u.invoke (.individual request)).carried task = s.carried task := by
    intro task _
    rw [hsent]
    exact carried_of_pending_eq receives.pending task
  have hsame : u.lane scope = s.lane scope := by simp only [lane, receives.queue]
  rw [hsame, receives.queue] at hlane
  by_cases hown : s.queue.isOpen = true ∧ request.context.scope = scope
  · obtain ⟨ho, hscope⟩ := hown
    rw [if_pos ⟨ho, congrArg some hscope⟩] at hlane
    refine h.append haccepts hlane hcarried rfl ?_ (fun hflush => by cases hflush) ?_
    · rw [hsent]
      exact hopen.trans (receives.queue ▸ ho)
    · intro hv task ht hflush
      rw [← Option.not_isSome_iff_eq_none]
      exact fun hobject => unbatched hobject (h.joining hv task ht hflush)
  · rw [if_neg fun hserves => hown ⟨hserves.1, Option.some.inj hserves.2⟩, List.append_nil] at hlane
    exact h.elsewhere haccepts hlane hcarried hempty

/-- A request that joins a batch keeps the order, since a new batch has its flush at the end of the lane. -/
theorem Orderly.join (h : Orderly scope past s) (hs : s.ledger.Sound) (receives : Receives s request u)
    (known : request.context.scope ∈ s.suspensions.scopes)
    (isObject : request.value.objectId?.isSome = true)
    (allowed : u.probe.allows = true ∧ u.settings.batchEvaluation = true) :
    Orderly scope past (u.join request) := by
  have hput : ∀ pending, Accepts s request { u with pending := pending } := fun pending =>
    ⟨receives.serial_eq, receives.made, receives.accepted, receives.suspensions, receives.settings,
      receives.allows⟩
  have hsame : u.lane scope = s.lane scope := by simp only [lane, receives.queue]
  cases hf : s.pending.find? request.context.scope.id with
  | some batch =>
    have hjoin : u.join request =
        { u with pending := s.pending.put request.context.scope.id (batch ++ [request]) } := by
      unfold Session.join
      dsimp only
      rw [receives.pending, hf]
    rw [hjoin]
    by_cases hown : s.queue.isOpen = true ∧ request.context.scope = scope
    · obtain ⟨ho, rfl⟩ := hown
      -- a batch that waits has its flush in the queue, so the object joins the group of that flush
      obtain ⟨context, hcontext, hflush⟩ := flush_of_batch hs ho known hf
      exact h.extend hs (hput _) hflush hcontext ho hf isObject receives.queue rfl
    · exact h.elsewhere (hput _) hsame (h.carried_put hs known hown rfl)
        (receives.queue.symm ▸ h.empty)
  | none =>
    have hjoin : u.join request =
        { u with pending := s.pending.put request.context.scope.id [request] }.invoke
          (.flush request.context) := by
      unfold Session.join
      dsimp only
      rw [receives.pending, hf]
    rw [hjoin]
    have haccepts := (hput (s.pending.put request.context.scope.id [request])).invoke
      (.flush request.context)
    have hlane := lane_invoke { u with pending := s.pending.put request.context.scope.id [request] }
      (.flush request.context) scope
    have hempty : s.queue.isOpen = false → s.queue.waiting = [] := h.empty
    rw [← receives.queue] at hempty
    replace hempty := @empty_invoke
      { u with pending := s.pending.put request.context.scope.id [request] } hempty
      (.flush request.context)
    obtain ⟨queue, link, hsent, hopen, -⟩ :=
      ({ u with pending := s.pending.put request.context.scope.id [request] } : Session).exists_invoke
        (.flush request.context)
    replace hlane := hlane.trans (congrArg (· ++ _) hsame)
    replace hopen : queue.isOpen = s.queue.isOpen := hopen.trans (by rw [receives.queue])
    rw [hsent] at haccepts hlane hempty ⊢
    by_cases hown : s.queue.isOpen = true ∧ request.context.scope = scope
    · obtain ⟨ho, hscope⟩ := hown
      -- without a batch no flush of the scope waits, so the new flush is the first in its lane
      have hnone : ∀ task ∈ s.lane scope, task.flushScope? = none := by
        intro task ht
        obtain ⟨hwaits, hserves⟩ := mem_lane.1 ht
        cases task with
        | flush context =>
          obtain ⟨batch, hbatch, -⟩ := batch_of_flush hs ho hwaits
          rw [Option.some.inj hserves, ← hscope, hf] at hbatch
          cases hbatch
        | individual r => rfl
        | command command place => rfl
      rw [if_pos ⟨receives.queue.symm ▸ ho, congrArg some hscope⟩] at hlane
      refine h.append haccepts hlane ?_ ?_ (hopen.trans ho) (fun _ => allowed) ?_
      · intro task ht
        have hnot := hnone task ht
        cases task with
        | flush context => cases hnot
        | individual r => rfl
        | command command place => rfl
      · simp [carried]
      · intro _ task ht hflush
        rw [hnone task ht] at hflush
        cases hflush
    · rw [receives.queue, if_neg fun hserves => hown ⟨hserves.1, Option.some.inj hserves.2⟩,
        List.append_nil] at hlane
      exact h.elsewhere haccepts hlane (h.carried_put hs known hown rfl) hempty

/-- A submission keeps every lane in order: its request goes to the end of its lane, or as an object into the batch of
the flush there. -/
theorem Orderly.submit (h : Orderly scope past s) (hs : s.ledger.Sound)
    (serial_eq : request.serial = s.made) (known : request.context.scope ∈ s.suspensions.scopes) :
    Orderly scope past (submit { s with made := s.made + 1 } request) := by
  by_cases hsender : s.queue.hasSender = true
  · rw [submit_of_hasSender (show ({ s with made := s.made + 1 } : Session).queue.hasSender = true
      from hsender)]
    have hreceives := receives_record serial_eq
    generalize ({ s with made := s.made + 1 } : Session).record (.accepted request) = u at hreceives
    by_cases hobject : request.value.objectId?.isSome = true
    · rw [accept_of_object hobject]
      have hasked := hreceives.askProbe request.context
      obtain ⟨probe, link, hask, -, hknown, hanswer⟩ := u.exists_askProbe request.context
      by_cases ha : (u.askProbe request.context).1 = true
      · rw [if_pos ha]
        refine h.join hs hasked known hobject ?_
        rw [hanswer] at ha
        rw [hask]
        exact ha.symm
      · rw [if_neg ha]
        refine h.individual hasked fun _ hwaits => ?_
        obtain ⟨hallows, hbatching⟩ := hwaits
        rw [hanswer, hknown (hreceives.allows hallows)] at ha
        exact ha ⟨hreceives.settings ▸ hbatching, hreceives.allows hallows⟩
    · rw [accept_of_local (Option.not_isSome_iff_eq_none.1 hobject)]
      exact h.individual hreceives fun hobject' => absurd hobject' hobject
  · have hnote : ({ s with made := s.made + 1 } : Session).submit request =
        ({ s with made := s.made + 1 } : Session).note .submissionDropped := if_neg hsender
    have haccepted : (({ s with made := s.made + 1 } : Session).note .submissionDropped).accepted =
        s.accepted := congrArg Ledger.accepted (ledger_note _ rfl)
    rw [hnote]
    refine h.of_queue_eq rfl rfl rfl id (Nat.le_succ _) (fun r hr => ?_) id rfl
    rwa [haccepted]

/-! ## Steps -/

/-- Whether a scope is not in use: it is not valid, or no request of it was accepted so far. -/
def Unused (s : Session) (scope : Scope) : Prop :=
  s.suspensions.isValid scope = false ∨ ∀ r ∈ s.accepted, r.context.scope ≠ scope

/-- Whether what keeps the order of a lane is carried over from one session to another. -/
def KeepsOrder (scope : Scope) (past : List (List Request)) (s s' : Session) : Prop :=
  Orderly scope past s ∧ s.ledger.Sound → Orderly scope past s' ∧ s'.ledger.Sound

instance : Std.Refl (KeepsOrder scope past) := ⟨fun _ h => h⟩

instance : IsTrans Session (KeepsOrder scope past) := ⟨fun _ _ _ h h' hs => h' (h hs)⟩

/-- A reaction keeps the order. -/
theorem keepsOrder_of_reacts {s' : Session} (reacts : Reacts s s') : KeepsOrder scope past s s' :=
  fun ⟨h, hs⟩ => ⟨h.of_reacts reacts, sound_reacts reacts hs⟩

/-- So does every move. -/
theorem keepsOrder_move {s' : Session} (move : Move s s') : KeepsOrder scope past s s' := by
  rintro ⟨h, hs⟩
  refine ⟨?_, sound_move move hs⟩
  cases move with
  | reacts reacts => exact h.of_reacts reacts
  | ask context =>
    have haccepted := congrArg Ledger.accepted (s.ledger_askProbe context)
    obtain ⟨probe, link, hask, -, hknown, -⟩ := s.exists_askProbe context
    rw [hask] at haccepted ⊢
    replace haccepted : ({ s with probe := probe, link := link } : Session).accepted = s.accepted :=
      haccepted
    refine h.of_queue_eq rfl rfl rfl id (Nat.le_refl _) (fun r hr => haccepted.symm ▸ hr) ?_ rfl
    intro hallows
    rw [hknown hallows]
    exact hallows
  | make n => exact h.of_queue_eq rfl rfl rfl id (Nat.le_add_right _ _) (fun r hr => hr) id rfl
  | submit request serial_eq scope_mem => exact h.submit hs serial_eq scope_mem

/-- So do calls about scopes, which never revive one. -/
theorem keepsOrder_call (c : ScopeCall) :
    KeepsOrder scope past s { s with suspensions := s.suspensions.call c } := by
  rintro ⟨h, hs⟩
  refine ⟨h.of_queue_eq rfl rfl rfl ?_ (Nat.le_refl _) (fun r hr => hr) id rfl, sound_call c hs⟩
  intro hv
  have hone : ([c].foldl Suspensions.call s.suspensions).isValid scope = true := hv
  exact Suspensions.isValid_of_foldl hone

/-- While a scope is not in use no flush waits for it, and so the end of the debuggee is no concern to it.
-/
theorem keepsOrder_processDetached (unused : s.Unused scope) :
    KeepsOrder scope past s s.processDetached := by
  rintro ⟨h, hs⟩
  have hledger : s.processDetached.ledger = s.ledger := s.ledger_processDetached
  have haccepted : s.processDetached.accepted = s.accepted := congrArg Ledger.accepted hledger
  refine ⟨?_, hledger.symm ▸ hs⟩
  refine h.frame (List.Sublist.refl _) (fun _ task _ => carried_of_pending_eq rfl task) id
    (Nat.le_refl _) (fun r hr => haccepted.symm ▸ hr) h.empty ?_
  intro hv task ht hflush
  replace hv : s.suspensions.isValid scope = true := hv
  replace ht : task ∈ s.lane scope := ht
  obtain ⟨hwaits, hserves⟩ := mem_lane.1 ht
  have hopen := h.isOpen_of_mem hwaits
  cases task with
  | flush context =>
    obtain ⟨batch, hbatch, hne, hall⟩ := batch_of_flush hs hopen hwaits
    obtain ⟨head, hhead⟩ := List.exists_mem_of_ne_nil batch hne
    have hcarried : head ∈ s.carried (.flush context) := by
      rwa [carried, hbatch]
    have hgroup : s.carried (.flush context) ∈ s.groups scope past := by
      rw [groups_of_valid hv]
      exact List.mem_append_right _ (List.mem_map_of_mem ht)
    have hmem := (h.known _ hgroup head hcarried).2
    rcases unused with hinvalid | hnone
    · rw [hinvalid] at hv
      cases hv
    · exact absurd ((hall head hhead).1.trans (Option.some.inj hserves)) (hnone head hmem)
  | individual request => cases hflush
  | command command place => cases hflush

/-- So does every step, except for the end of the debuggee while the scope is in use. -/
theorem keepsOrder_perform {step : Step} (unused : step = .processDetached → s.Unused scope) :
    KeepsOrder scope past s (s.after (.step step)) :=
  along_perform keepsOrder_call (fun hstep => keepsOrder_processDetached (unused hstep))
    fun _ _ => keepsOrder_move

theorem keepsOrder_emit (report : Report) : KeepsOrder scope past s (s.emit report) := by
  rintro ⟨h, hs⟩
  have hledger := s.ledger_emit report
  have haccepted : (s.emit report).accepted = s.accepted := congrArg Ledger.accepted hledger
  exact ⟨h.of_queue_eq rfl rfl rfl id (Nat.le_refl _) (fun r hr => haccepted.symm ▸ hr) id rfl,
    hledger.symm ▸ hs⟩

/-! ## Turns -/

/-- What a scope was served in the turns of a run: the groups of its requests whose tasks were taken while
it was valid. -/
def served (s : Session) (scope : Scope) (events : List Event) : List (List Request) :=
  ((s.turns events).filter fun t =>
    decide (t.servedNext? = some scope) && t.suspensions.isValid scope).map next

/-- The groups that a run serves are those of its events in order. -/
theorem served_cons (s : Session) (scope : Scope) (event : Event) (rest : List Event) :
    s.served scope (event :: rest) = s.served scope [event] ++ (s.after event).served scope rest := by
  have ht := s.turns_append [event] rest
  unfold served
  rw [← List.map_append, ← List.filter_append, ← List.singleton_append, ht]
  rfl

variable {task : Task} {rest : List Task}

/-- A turn serves the requests of its task, if it serves the scope and the scope is valid. -/
theorem served_turn {other : Scope} (h : s.queue.waiting = task :: rest)
    (serves : task.servedScope? = some other) :
    s.served scope [.turn] =
      if other = scope ∧ s.suspensions.isValid scope = true then [s.next] else [] := by
  have hnext : s.servedNext? = some other := by simp [servedNext?, h, serves]
  by_cases hother : other = scope <;> cases hv : s.suspensions.isValid scope <;>
    simp [served, turns, hnext, hother, hv]

/-- A queue in which something waits is open. -/
theorem Orderly.isOpen_of_cons (h : Orderly scope past s) (hw : s.queue.waiting = task :: rest) :
    s.queue.isOpen = true :=
  h.isOpen_of_mem (by rw [hw]; exact List.mem_cons_self)

/-- Tasks of a valid scope carry what they carried before one was taken: if it was a flush of the scope, then
it was the only one. -/
theorem Orderly.carried_released (h : Orderly scope past s) (hs : s.ledger.Sound) {other : Scope}
    (hw : s.queue.waiting = task :: rest) (serves : task.servedScope? = some other)
    (valid : s.suspensions.isValid scope = true) :
    ∀ t ∈ (s.taken rest).lane scope, (s.released task rest).carried t = s.carried t := by
  intro t ht
  have hopen := h.isOpen_of_cons hw
  obtain ⟨hwaits, hserves⟩ := mem_lane.1 ht
  replace hwaits : t ∈ s.queue.waiting := hw.symm ▸ List.mem_cons_of_mem _ hwaits
  cases t with
  | flush context =>
    cases task with
    | flush context' =>
      have hscope : context.scope = scope := Option.some.inj hserves
      have hne : context.scope.id ≠ context'.scope.id := by
        intro hid
        have hmem : ∀ c : Context, .flush c ∈ s.queue.waiting → c.scope ∈ s.suspensions.scopes :=
          fun c hc => hs.flushes_mem _ (List.mem_filterMap.2 ⟨_, hc, rfl⟩)
        have hfirst : .flush context' ∈ s.queue.waiting := hw.symm ▸ List.mem_cons_self
        have hsame : context'.scope = scope :=
          (hs.scope_inj (hmem _ hwaits) (hmem _ hfirst) hid).symm.trans hscope
        have hbehind := h.behind valid
        rw [lane, hw, List.filter_cons_of_pos (by simp [Task.servedScope?, hsame]),
          List.pairwise_cons] at hbehind
        obtain ⟨r, hr, hobject⟩ := exists_object_of_flush hs hopen hwaits rfl
        rw [hbehind.1 _ ht rfl r hr] at hobject
        cases hobject
      show ((s.pending.erase context'.scope.id).find? context.scope.id).getD [] = _
      rw [Table.find?_erase_of_ne _ hne]
      rfl
    | individual request => rfl
    | command command place => cases serves
  | individual request => rfl
  | command command place => rfl

/-- Taking the first task of a lane makes its requests a part of the past. -/
theorem Orderly.released (h : Orderly scope past s) (hs : s.ledger.Sound) {other : Scope}
    (hw : s.queue.waiting = task :: rest) (serves : task.servedScope? = some other) :
    Orderly scope (past ++ s.served scope [.turn]) (s.released task rest) := by
  have hempty : (s.released task rest).queue.isOpen = false →
      (s.released task rest).queue.waiting = [] := by
    intro hclosed
    replace hclosed : s.queue.isOpen = false := hclosed
    rw [h.isOpen_of_cons hw] at hclosed
    cases hclosed
  have hsub : ((s.released task rest).lane scope).Sublist (s.lane scope) := by
    simp only [lane, hw]
    exact (List.sublist_cons_self task rest).filter _
  rw [served_turn hw serves]
  by_cases hown : other = scope ∧ s.suspensions.isValid scope = true
  · obtain ⟨rfl, hv⟩ := hown
    rw [if_pos ⟨rfl, hv⟩]
    have hcarried := h.carried_released hs hw serves hv
    have hlane : s.lane other = task :: (s.taken rest).lane other := by
      simp [lane, hw, serves, taken]
    have hgroups : (s.released task rest).groups other (past ++ [s.next]) =
        s.groups other past := by
      rw [groups_of_valid hv, groups_of_valid (show (s.released task rest).suspensions.isValid other =
        true from hv), hlane, List.map_cons, next_of_cons hw, List.append_assoc]
      exact congrArg (past ++ s.carried task :: ·) (List.map_congr_left hcarried)
    refine ⟨hgroups ▸ h.inOrder, ?_, hempty, ?_, ?_⟩
    · rw [hgroups]
      exact h.known
    · exact fun _ t ht hflush => h.joining hv t (hsub.subset ht) hflush
    · intro _
      refine ((h.behind hv).sublist hsub).imp_of_mem fun {t t'} _ ht' hbehind hflush r hr => ?_
      rw [hcarried t' ht'] at hr
      exact hbehind hflush r hr
  · rw [if_neg hown, List.append_nil]
    refine h.frame hsub (fun hv => h.carried_released hs hw serves hv) id (Nat.le_refl _)
      (fun r hr => hr) hempty fun hv t ht hflush => h.joining hv t (hsub.subset ht) hflush

/-- A turn takes the first group from the lane and keeps the rest in order behind it. -/
theorem orderly_turn (h : Orderly scope past s) (hs : s.ledger.Sound)
    (unused : ∀ p ∈ s.stepsAt .turn, p.2 = .processDetached → p.1.Unused scope) :
    Orderly scope (past ++ s.served scope [.turn]) (s.after .turn) := by
  cases hw : s.queue.waiting with
  | nil =>
    have hnone : s.served scope [.turn] = [] := by simp [served, turns, servedNext?, hw]
    rw [hnone, List.append_nil, after_turn_of_nil hw]
    exact h
  | cons task rest =>
    by_cases hserves : ∃ other, task.servedScope? = some other
    · obtain ⟨other, hserves⟩ := hserves
      refine (h.released hs hw hserves).of_reacts (reacts_turn hw ?_)
      exact Task.isCommand_eq_false_iff.2 ⟨other, hserves⟩
    · cases task with
      | flush context => exact absurd ⟨_, rfl⟩ hserves
      | individual request => exact absurd ⟨_, rfl⟩ hserves
      | command command place =>
        have hnone : s.served scope [.turn] = [] := by
          simp [served, turns, servedNext?, hw, Task.servedScope?]
        have htaken : Orderly scope past (s.taken rest) := by
          refine h.of_lane_eq ?_ (fun t _ => carried_of_pending_eq rfl t) ?_ id (Nat.le_refl _)
            (fun r hr => hr) id rfl
          · simp [lane, taken, hw, Task.servedScope?]
          · intro hclosed
            replace hclosed : s.queue.isOpen = false := hclosed
            rw [h.isOpen_of_cons hw] at hclosed
            cases hclosed
        have hsound : (s.taken rest).ledger.Sound := (ledger_taken_command hw).symm ▸ hs
        have hsteps : KeepsOrder scope past (s.taken rest) (s.after .turn) := by
          refine along_turn_command hw (fun t _ _ => keepsOrder_emit _) ?_ fun p hp name => ?_
          · exact fun t _ _ => keepsOrder_of_reacts (reacts_note t _)
          · exact along_stepped (keepsOrder_perform (unused p hp)) fun t _ => keepsOrder_emit _
        rw [hnone, List.append_nil]
        exact (hsteps ⟨htaken, hsound⟩).1

/-! ## Runs -/

/-- Every event keeps a lane in order, with the groups that it serves in front. -/
theorem orderly_after (event : Event) (h : Orderly scope past s) (hs : s.ledger.Sound)
    (unused : ∀ p ∈ s.stepsAt event, p.2 = .processDetached → p.1.Unused scope) :
    Orderly scope (past ++ s.served scope [event]) (s.after event) := by
  cases event with
  | turn => exact orderly_turn h hs unused
  | step step =>
    have hstep : KeepsOrder scope past s (s.after (.step step)) :=
      keepsOrder_perform fun hstep => unused (s, step) (List.mem_singleton.2 rfl) hstep
    simpa [served, turns] using (hstep ⟨h, hs⟩).1
  | dropSender =>
    have hsame : Orderly scope past s.dropOwnSender := by
      unfold dropOwnSender
      split
      · exact h.of_queue_eq rfl rfl rfl id (Nat.le_refl _) (fun r hr => hr) id rfl
      · exact h
    simpa [served, turns, after] using hsame
  | dropQueue =>
    have hclosed : Orderly scope past s.closeQueue := by
      have hlane : s.closeQueue.lane scope = [] := rfl
      refine h.frame (hlane ▸ List.nil_sublist _) ?_ id (Nat.le_refl _) (fun r hr => hr)
        (fun _ => rfl) ?_
      · exact fun _ t _ => carried_of_pending_eq rfl t
      · exact fun _ t ht => by cases ht
    simpa [served, turns, after] using hclosed

/-- In every run in which the end of the debuggee is only reported while a scope is not in use, its requests
are served in order. -/
theorem orderly_play (events : List Event) (h : Orderly scope past s) (hs : s.ledger.Sound)
    (unused : ∀ p ∈ s.steps events, p.2 = .processDetached → p.1.Unused scope) :
    Orderly scope (past ++ s.served scope events) (s.play events) := by
  induction events generalizing s past with
  | nil => simpa [served, turns] using h
  | cons event rest ih =>
    have hfirst := orderly_after event h hs fun p hp => unused p (List.mem_append_left _ hp)
    have hrest := ih hfirst (sound_after event hs) fun p hp => unused p (List.mem_append_right _ hp)
    rwa [served_cons, ← List.append_assoc]

/-- At the start every lane is empty. -/
theorem orderly_start (debuggee : Debuggee) (settings : DebuggerSettings)
    (connection : Connection) (scope : Scope) :
    Orderly scope [] (start debuggee settings connection) := by
  have hlane : (start debuggee settings connection).lane scope = [] := rfl
  have hgroups : (start debuggee settings connection).groups scope [] = [] := by
    simp [groups, hlane]
  refine ⟨?_, ?_, fun ho => Bool.noConfusion ho, ?_, ?_⟩
  · -- inOrder
    rw [hgroups]
    exact ⟨fun g hg => (List.not_mem_nil hg).elim, List.Pairwise.nil⟩
  · -- known
    rw [hgroups]
    exact fun g hg => (List.not_mem_nil hg).elim
  · -- joining
    exact fun _ t ht => (List.not_mem_nil (hlane ▸ ht)).elim
  · -- behind
    rw [hlane]
    exact fun _ => List.Pairwise.nil

end BatchStringify.Session
