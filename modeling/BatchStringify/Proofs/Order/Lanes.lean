import BatchStringify.Proofs.Ledger.Accounts
import BatchStringify.Proofs.Moves

/-!
# The lane of a scope

The tasks in the queue that serve one scope form its lane, and each carries a group of requests that are
delivered together. A flush stands in the lane where the first request of its batch came, and later objects
join it there, so they come before the values that were submitted in the meantime. Nothing else is out of
order (`Orderly`): while a flush waits, batches can be evaluated, so behind it there are no tasks of single
objects. This is where it matters that the end of the debuggee is only reported while a scope is not in
use.
-/

namespace BatchStringify

/-! ## Groups of requests -/

/-- A request for an object came to a group that was begun before another request, which is for a value
with a text of its own. -/
def Overtakes (group : List Request) (r r' : Request) : Prop :=
  r.value.objectId?.isSome ∧ r'.value.objectId? = none ∧ ∃ first ∈ group, first.serial < r'.serial

/-- The requests of a group come before those of a later group, unless they overtook them. -/
def Precedes (group group' : List Request) : Prop :=
  ∀ r ∈ group, ∀ r' ∈ group', r.serial < r'.serial ∨ Overtakes group r r'

/-- Whether groups of requests follow each other in order. -/
structure InOrder (groups : List (List Request)) : Prop where
  sorted : ∀ group ∈ groups, group.Pairwise (·.serial < ·.serial)
  apart : groups.Pairwise Precedes

namespace InOrder

variable {groups groups' front back : List (List Request)} {group : List Request}
  {request : Request}

/-- Groups that are left out do no harm to the order of the others. -/
theorem sublist (h : InOrder groups) (hs : groups'.Sublist groups) : InOrder groups' :=
  ⟨fun g hg => h.sorted g (hs.subset hg), h.apart.sublist hs⟩

/-- A newer request may come last, in a group of its own. -/
theorem append (h : InOrder groups)
    (newer : ∀ g ∈ groups, ∀ r ∈ g, r.serial < request.serial) :
    InOrder (groups ++ [[request]]) := by
  constructor
  · intro g hg
    rcases List.mem_append.1 hg with hg | hg
    · exact h.sorted g hg
    · rw [List.mem_singleton.1 hg]
      exact List.pairwise_singleton _ _
  · refine List.pairwise_append.2 ⟨h.apart, List.pairwise_singleton _ _, ?_⟩
    intro g hg g' hg' r hr r' hr'
    rw [List.mem_singleton.1 hg'] at hr'
    rw [List.mem_singleton.1 hr']
    exact .inl (newer g hg r hr)

/-- An object may join a group if the groups behind it are for values with a text of their own. -/
theorem extend (h : InOrder (front ++ group :: back)) (nonempty : group ≠ [])
    (newer : ∀ g ∈ front ++ [group], ∀ r ∈ g, r.serial < request.serial)
    (isObject : request.value.objectId?.isSome)
    (behind : ∀ g ∈ back, ∀ r ∈ g, r.value.objectId? = none) :
    InOrder (front ++ (group ++ [request]) :: back) := by
  obtain ⟨head, hhead⟩ := List.exists_mem_of_ne_nil group nonempty
  obtain ⟨hsorted, hapart⟩ := h
  rw [List.pairwise_append, List.pairwise_cons] at hapart
  obtain ⟨hfront, ⟨hback, hrest⟩, hacross⟩ := hapart
  constructor
  · intro g hg
    rcases List.mem_append.1 hg with hg | hg
    · exact hsorted g (List.mem_append_left _ hg)
    · rcases List.mem_cons.1 hg with rfl | hg
      · refine List.pairwise_append.2 ⟨hsorted group (by simp), List.pairwise_singleton _ _, ?_⟩
        intro r hr r' hr'
        rw [List.mem_singleton.1 hr']
        exact newer group (by simp) r hr
      · exact hsorted g (List.mem_append_right _ (List.mem_cons_of_mem _ hg))
  · rw [List.pairwise_append, List.pairwise_cons]
    refine ⟨hfront, ⟨?_, hrest⟩, ?_⟩
    · intro g hg r hr r' hr'
      rcases List.mem_append.1 hr with hr | hr
      · refine (hback g hg r hr r' hr').imp_right ?_
        rintro ⟨hobject, hnone, first, hfirst, hlt⟩
        exact ⟨hobject, hnone, first, List.mem_append_left _ hfirst, hlt⟩
      · -- the new request overtakes what is behind the group
        rw [List.mem_singleton.1 hr]
        refine .inr ⟨isObject, behind g hg r' hr', ?_⟩
        rcases hback g hg head hhead r' hr' with hlt | ⟨-, -, first, hfirst, hlt⟩
        · exact ⟨head, List.mem_append_left _ hhead, hlt⟩
        · exact ⟨first, List.mem_append_left _ hfirst, hlt⟩
    · intro g hg g' hg' r hr r' hr'
      rcases List.mem_cons.1 hg' with rfl | hg'
      · rcases List.mem_append.1 hr' with hr' | hr'
        · exact hacross g hg group List.mem_cons_self r hr r' hr'
        · rw [List.mem_singleton.1 hr']
          exact .inl (newer g (List.mem_append_left _ hg) r hr)
      · exact hacross g hg g' (List.mem_cons_of_mem _ hg') r hr r' hr'

end InOrder

namespace Session

/-! ## The lane -/

/-- The tasks in the queue that serve a scope, the next one first. -/
def lane (s : Session) (scope : Scope) : List Task :=
  s.queue.waiting.filter fun task => task.servedScope? = some scope

/-- The requests of a scope in the groups in which they are delivered: the past ones, and as long as the
scope is valid those of its lane. -/
def groups (s : Session) (scope : Scope) (past : List (List Request)) : List (List Request) :=
  past ++ if s.suspensions.isValid scope then (s.lane scope).map s.carried else []

/-- The groups of a scope are in order. -/
structure Orderly (scope : Scope) (past : List (List Request)) (s : Session) : Prop where
  inOrder : InOrder (s.groups scope past)
  known : ∀ group ∈ s.groups scope past, ∀ r ∈ group, r.serial < s.made ∧ r ∈ s.accepted
  empty : s.queue.isOpen = false → s.queue.waiting = []
  /-- While a flush waits, objects join it. -/
  joining : s.suspensions.isValid scope = true →
    ∀ task ∈ s.lane scope, task.flushScope?.isSome = true →
      s.probe.allows = true ∧ s.settings.batchEvaluation = true
  /-- Behind a flush there are no objects. -/
  behind : s.suspensions.isValid scope = true →
    (s.lane scope).Pairwise fun task task' => task.flushScope?.isSome = true →
      ∀ r ∈ s.carried task', r.value.objectId? = none

variable {scope : Scope} {past : List (List Request)} {s s' : Session}

/-! ## The invariant of the ledger along moves -/

/-- A reaction sends no task that serves requests. -/
theorem Reacts.flushes (h : Reacts s s') :
    s'.ledger.flushes = s.ledger.flushes ∧ s'.ledger.singles = s.ledger.singles := by
  obtain ⟨sent, hsent, hcommands⟩ := h.sent
  have hnone : sent.filterMap Task.flushScope? = [] ∧ sent.filterMap Task.single? = [] := by
    constructor <;> refine List.filterMap_eq_nil_iff.2 fun task ht => ?_ <;>
      have hc := (hcommands task ht).1 <;> cases task <;> first | rfl | cases hc
  simp only [ledger, hsent, List.filterMap_append, hnone.1, hnone.2, List.append_nil]
  exact ⟨trivial, trivial⟩

/-- A reaction leaves the ledger sound. -/
theorem sound_reacts (h : Reacts s s') (hs : s.ledger.Sound) : s'.ledger.Sound :=
  hs.of_eq h.scopes h.isOpen h.pending h.flushes.1 h.flushes.2

/-- So does every move. -/
theorem sound_move (move : Move s s') (h : s.ledger.Sound) : s'.ledger.Sound := by
  cases move with
  | reacts reacts => exact sound_reacts reacts h
  | ask context => rwa [ledger_askProbe]
  | make n => exact h.of_eq rfl rfl rfl rfl rfl
  | submit request serial_eq scope_mem =>
    have hmade : (s.ledger.make 1).Sound := h.of_eq rfl rfl rfl rfl rfl
    have haccepted : ((s.ledger.make 1).accept request).Sound := h.of_eq rfl rfl rfl rfl rfl
    rcases ledger_submit { s with made := s.made + 1 } request with
      ⟨-, hl⟩ | ⟨-, hl | ⟨hobject, hl⟩⟩ <;> rw [hl]
    · exact hmade
    · exact haccepted.enqueue scope_mem
    · exact haccepted.join scope_mem hobject

/-- Scopes are no matter of the ledger. -/
theorem sound_call (c : ScopeCall) (h : s.ledger.Sound) :
    ({ s with suspensions := s.suspensions.call c } : Session).ledger.Sound := by
  cases c with
  | suspend attachment thread => exact h.step (.suspend s.ledger _ rfl)
  | attach => exact h.of_eq rfl rfl rfl rfl rfl
  | detach attachment => exact h.of_eq rfl rfl rfl rfl rfl
  | invalidate index =>
    refine h.of_eq ?_ rfl rfl rfl rfl
    show (s.suspensions.call (.invalidate index)).scopes = s.suspensions.scopes
    rw [Suspensions.call_invalidate]
    cases s.suspensions.scopes[index]? <;> rfl

/-! ## Flushes and batches -/

/-- The lane of a scope is made of the tasks that serve it. -/
theorem mem_lane {task : Task} :
    task ∈ s.lane scope ↔ task ∈ s.queue.waiting ∧ task.servedScope? = some scope := by
  simp [lane]

/-- A flush in an open queue has a batch of objects of its scope. -/
theorem batch_of_flush (h : s.ledger.Sound) (isOpen : s.queue.isOpen = true) {context : Context}
    (hf : .flush context ∈ s.queue.waiting) :
    ∃ batch, s.pending.find? context.scope.id = some batch ∧ batch ≠ [] ∧
      ∀ r ∈ batch, r.context.scope = context.scope ∧ r.value.objectId?.isSome := by
  have hmem : context.scope ∈ s.ledger.flushes := List.mem_filterMap.2 ⟨_, hf, rfl⟩
  have hkey : context.scope.id ∈ s.pending.keys := by
    have hkeys : s.ledger.flushes.map (·.id) = s.pending.keys := h.flushes_eq isOpen
    rw [← hkeys]
    exact List.mem_map_of_mem hmem
  obtain ⟨batch, hbatch⟩ := Option.isSome_iff_exists.1 ((Table.find?_isSome_iff _ _).2 hkey)
  obtain ⟨hne, hall⟩ := h.batch hbatch
  refine ⟨batch, hbatch, hne, fun r hr => ⟨?_, (hall r hr).2⟩⟩
  have hwaiting : r ∈ s.ledger.waiting :=
    Ledger.mem_waiting.2 (.inl ⟨_, Table.mem_entries_of_find? hbatch, hr⟩)
  exact h.scope_inj (h.waiting_mem r hwaiting) (h.flushes_mem _ hmem) (hall r hr).1

/-- A flush that waits has a batch with a request for an object. -/
theorem exists_object_of_flush (h : s.ledger.Sound) (isOpen : s.queue.isOpen = true) {task : Task}
    (ht : task ∈ s.queue.waiting) (flush : task.flushScope?.isSome = true) :
    ∃ r ∈ s.carried task, r.value.objectId?.isSome = true := by
  cases task with
  | flush context =>
    obtain ⟨batch, hbatch, hne, hall⟩ := batch_of_flush h isOpen ht
    obtain ⟨head, hhead⟩ := List.exists_mem_of_ne_nil batch hne
    refine ⟨head, ?_, (hall head hhead).2⟩
    rwa [carried, hbatch]
  | individual request => cases flush
  | command command place => cases flush

/-- A batch in an open queue has a flush. -/
theorem flush_of_batch (h : s.ledger.Sound) (isOpen : s.queue.isOpen = true)
    (hscope : scope ∈ s.suspensions.scopes) {batch : List Request}
    (hb : s.pending.find? scope.id = some batch) :
    ∃ context, context.scope = scope ∧ .flush context ∈ s.queue.waiting := by
  have hkeys : s.ledger.flushes.map (·.id) = s.pending.keys := h.flushes_eq isOpen
  have hkey : scope.id ∈ s.pending.keys := by
    rw [← Table.find?_isSome_iff, hb]
    rfl
  rw [← hkeys] at hkey
  obtain ⟨found, hfound, hid⟩ := List.mem_map.1 hkey
  obtain ⟨task, ht, hflush⟩ := List.mem_filterMap.1 hfound
  cases task with
  | flush context =>
    obtain rfl := Option.some.inj hflush
    exact ⟨context, h.scope_inj (h.flushes_mem _ hfound) hscope hid, ht⟩
  | individual request => cases hflush
  | command command place => cases hflush

/-! ## What keeps the order -/

/-- A scope that has ended has no groups to come. -/
theorem groups_of_invalid (h : s.suspensions.isValid scope = false) : s.groups scope past = past := by
  simp [groups, h]

/-- A valid scope has those of its lane. -/
theorem groups_of_valid (h : s.suspensions.isValid scope = true) :
    s.groups scope past = past ++ (s.lane scope).map s.carried := by
  simp [groups, h]

/-- The order is kept if tasks only leave the lane and the requests in it stay where they are. -/
theorem Orderly.frame (h : Orderly scope past s) (lane : (s'.lane scope).Sublist (s.lane scope))
    (carried : s'.suspensions.isValid scope = true →
      ∀ task ∈ s'.lane scope, s'.carried task = s.carried task)
    (valid : s'.suspensions.isValid scope = true → s.suspensions.isValid scope = true)
    (made : s.made ≤ s'.made) (accepted : ∀ r ∈ s.accepted, r ∈ s'.accepted)
    (empty : s'.queue.isOpen = false → s'.queue.waiting = [])
    (joining : s'.suspensions.isValid scope = true →
      ∀ task ∈ s'.lane scope, task.flushScope?.isSome = true →
        s'.probe.allows = true ∧ s'.settings.batchEvaluation = true) : Orderly scope past s' := by
  have hgroups : (s'.groups scope past).Sublist (s.groups scope past) := by
    by_cases hv : s'.suspensions.isValid scope = true
    · rw [groups_of_valid hv, groups_of_valid (valid hv)]
      refine List.Sublist.append_left ?_ past
      rw [List.map_congr_left (carried hv)]
      exact lane.map _
    · rw [groups_of_invalid (Bool.eq_false_iff.2 hv)]
      exact List.sublist_append_left _ _
  refine ⟨h.inOrder.sublist hgroups, ?_, empty, joining, ?_⟩
  · intro group hg r hr
    obtain ⟨hlt, hmem⟩ := h.known group (hgroups.subset hg) r hr
    exact ⟨Nat.lt_of_lt_of_le hlt made, accepted r hmem⟩
  · intro hv
    have hpairs := (h.behind (valid hv)).sublist lane
    refine hpairs.imp_of_mem fun {task task'} _ ht' hbehind hflush r hr => ?_
    rw [carried hv task' ht'] at hr
    exact hbehind hflush r hr

/-- The order is kept if the lane and the requests in it stay as they are. -/
theorem Orderly.of_lane_eq (h : Orderly scope past s) (lane : s'.lane scope = s.lane scope)
    (carried : ∀ task ∈ s.lane scope, s'.carried task = s.carried task)
    (empty : s'.queue.isOpen = false → s'.queue.waiting = [])
    (valid : s'.suspensions.isValid scope = true → s.suspensions.isValid scope = true)
    (made : s.made ≤ s'.made) (accepted : ∀ r ∈ s.accepted, r ∈ s'.accepted)
    (allows : s.probe.allows = true → s'.probe.allows = true)
    (settings : s'.settings = s.settings) : Orderly scope past s' := by
  refine h.frame (by rw [lane]) ?_ valid made accepted empty ?_
  · intro _ task ht
    rw [lane] at ht
    exact carried task ht
  · intro hv task ht hflush
    rw [lane] at ht
    obtain ⟨hallows, hbatching⟩ := h.joining (valid hv) task ht hflush
    exact ⟨allows hallows, settings ▸ hbatching⟩

theorem carried_of_pending_eq (h : s'.pending = s.pending) (task : Task) :
    s'.carried task = s.carried task := by
  cases task <;> simp [carried, h]

/-- What leaves the queue and the batches alone keeps a lane in order, as long as it does not revive the scope or make
the probe forget. -/
theorem Orderly.of_queue_eq (h : Orderly scope past s)
    (waiting : s'.queue.waiting = s.queue.waiting) (isOpen : s'.queue.isOpen = s.queue.isOpen)
    (pending : s'.pending = s.pending)
    (valid : s'.suspensions.isValid scope = true → s.suspensions.isValid scope = true)
    (made : s.made ≤ s'.made) (accepted : ∀ r ∈ s.accepted, r ∈ s'.accepted)
    (allows : s.probe.allows = true → s'.probe.allows = true)
    (settings : s'.settings = s.settings) : Orderly scope past s' := by
  refine h.of_lane_eq ?_ (fun task _ => carried_of_pending_eq pending task) ?_ valid made accepted
    allows settings
  · simp only [lane, waiting]
  · rw [waiting, isOpen]
    exact h.empty

/-- So a reaction keeps a lane in order: it sends only commands, which are in no lane. -/
theorem Orderly.of_reacts (h : Orderly scope past s) (reacts : Reacts s s') :
    Orderly scope past s' := by
  obtain ⟨sent, hsent, hcommands⟩ := reacts.sent
  refine h.of_lane_eq ?_ (fun task _ => carried_of_pending_eq reacts.pending task) ?_ reacts.isValid
    (Nat.le_of_eq reacts.made.symm) ?_ ?_ reacts.settings
  · have hnone : (sent.filter fun task => task.servedScope? = some scope) = [] := by
      refine List.filter_eq_nil_iff.2 fun task ht => ?_
      have hc := (hcommands task ht).1
      cases task with
      | command command place => simp [Task.servedScope?]
      | _ => cases hc
    simp only [lane, hsent, List.filter_append, hnone, List.append_nil]
  · intro hclosed
    rw [reacts.isOpen] at hclosed
    rw [hsent, h.empty hclosed, List.nil_append, List.eq_nil_iff_forall_not_mem]
    intro task ht
    rw [(hcommands task ht).2] at hclosed
    cases hclosed
  · rw [reacts.accepted]
    exact fun r hr => hr
  · rw [reacts.probe]
    exact id

/-! ## New requests -/

/-- A session that has accepted a new request, wherever that went. -/
structure Accepts (s : Session) (request : Request) (s' : Session) : Prop where
  serial_eq : request.serial = s.made
  made : s'.made = s.made + 1
  accepted : s'.accepted = s.accepted ++ [request]
  suspensions : s'.suspensions = s.suspensions
  settings : s'.settings = s.settings
  allows : s.probe.allows = true → s'.probe.allows = true

variable {request : Request}

/-- A request that is accepted is newer than all that wait. -/
theorem Accepts.newer (accepts : Accepts s request s') (h : Orderly scope past s) :
    ∀ group ∈ s.groups scope past, ∀ r ∈ group, r.serial < request.serial := by
  intro group hg r hr
  rw [accepts.serial_eq]
  exact (h.known group hg r hr).1

/-- The requests that waited are still known after it. -/
theorem Accepts.known (accepts : Accepts s request s') (h : Orderly scope past s) :
    ∀ group ∈ s.groups scope past, ∀ r ∈ group, r.serial < s'.made ∧ r ∈ s'.accepted := by
  intro group hg r hr
  obtain ⟨hm, ha⟩ := h.known group hg r hr
  rw [accepts.made, accepts.accepted]
  exact ⟨Nat.lt_succ_of_lt hm, List.mem_append_left _ ha⟩

/-- So is the request itself. -/
theorem Accepts.known_self (accepts : Accepts s request s') :
    request.serial < s'.made ∧ request ∈ s'.accepted := by
  rw [accepts.made, accepts.accepted, accepts.serial_eq]
  exact ⟨Nat.lt_succ_self _, List.mem_append_right _ (List.mem_singleton.2 rfl)⟩

/-- While a flush waits, batches can still be evaluated. -/
theorem Accepts.joining (accepts : Accepts s request s') (h : Orderly scope past s)
    (valid : s'.suspensions.isValid scope = true) :
    ∀ task ∈ s.lane scope, task.flushScope?.isSome = true →
      s'.probe.allows = true ∧ s'.settings.batchEvaluation = true := by
  intro task ht hflush
  obtain ⟨hallows, hbatching⟩ := h.joining (accepts.suspensions ▸ valid) task ht hflush
  exact ⟨accepts.allows hallows, accepts.settings ▸ hbatching⟩

/-- The order is kept by a request that is of no concern to the lane. -/
theorem Orderly.elsewhere (h : Orderly scope past s) (accepts : Accepts s request s')
    (lane : s'.lane scope = s.lane scope)
    (carried : ∀ task ∈ s.lane scope, s'.carried task = s.carried task)
    (empty : s'.queue.isOpen = false → s'.queue.waiting = []) : Orderly scope past s' := by
  refine h.of_lane_eq lane carried empty ?_ ?_ ?_ accepts.allows accepts.settings
  · exact fun hv => accepts.suspensions ▸ hv
  · exact Nat.le_of_lt (accepts.made ▸ Nat.lt_succ_self _)
  · intro r hr
    rw [accepts.accepted]
    exact List.mem_append_left _ hr

/-- The order is kept by a new task at the end of the lane, unless it is for an object behind a flush. -/
theorem Orderly.append (h : Orderly scope past s) (accepts : Accepts s request s') {task : Task}
    (lane : s'.lane scope = s.lane scope ++ [task])
    (carried : ∀ t ∈ s.lane scope, s'.carried t = s.carried t) (own : s'.carried task = [request])
    (isOpen : s'.queue.isOpen = true)
    (joining : task.flushScope?.isSome = true →
      s'.probe.allows = true ∧ s'.settings.batchEvaluation = true)
    (behind : s.suspensions.isValid scope = true →
      ∀ t ∈ s.lane scope, t.flushScope?.isSome = true → request.value.objectId? = none) :
    Orderly scope past s' := by
  have hgroups : s'.groups scope past = s.groups scope past ∨
      s'.groups scope past = s.groups scope past ++ [[request]] := by
    by_cases hv : s.suspensions.isValid scope = true
    · right
      rw [groups_of_valid hv, groups_of_valid (accepts.suspensions ▸ hv), lane, List.map_append,
        List.map_congr_left carried, List.map_singleton, own, List.append_assoc]
    · -- a scope that has ended keeps only its past groups, and the new task is in none
      rw [Bool.not_eq_true] at hv
      left
      rw [groups_of_invalid hv, groups_of_invalid (accepts.suspensions ▸ hv)]
  refine ⟨?_, ?_, fun ho => ?_, fun hv t ht hflush => ?_, fun hv => ?_⟩
  · -- inOrder
    rcases hgroups with hgroups | hgroups <;> rw [hgroups]
    · exact h.inOrder
    · exact h.inOrder.append (accepts.newer h)
  · -- known
    intro group hg r hr
    rcases hgroups with hgroups | hgroups <;> rw [hgroups] at hg
    · exact accepts.known h group hg r hr
    · rcases List.mem_append.1 hg with hg | hg
      · exact accepts.known h group hg r hr
      · rw [List.mem_singleton.1 hg, List.mem_singleton] at hr
        rw [hr]
        exact accepts.known_self
  · -- empty
    rw [isOpen] at ho
    cases ho
  · -- joining
    rw [lane] at ht
    rcases List.mem_append.1 ht with ht | ht
    · exact accepts.joining h hv t ht hflush
    · rw [List.mem_singleton.1 ht] at hflush
      exact joining hflush
  · -- behind
    rw [accepts.suspensions] at hv
    rw [lane]
    refine List.pairwise_append.2 ⟨?_, List.pairwise_singleton _ _, ?_⟩
    · refine (h.behind hv).imp_of_mem fun {t t'} _ ht' hbehind hflush r hr => ?_
      rw [carried t' ht'] at hr
      exact hbehind hflush r hr
    · intro t ht t' ht' hflush r hr
      rw [List.mem_singleton.1 ht', own, List.mem_singleton] at hr
      rw [hr]
      exact behind hv t ht hflush

/-- The flush of a valid scope is the only one in its lane, since no objects stand behind a flush. -/
theorem Orderly.single_flush (h : Orderly scope past s) (hs : s.ledger.Sound)
    (isOpen : s.queue.isOpen = true) (valid : s.suspensions.isValid scope = true) {task : Task}
    (ht : task ∈ s.lane scope) (flush : task.flushScope?.isSome = true) :
    ∃ before after, s.lane scope = before ++ task :: after ∧
      (∀ t ∈ before ++ after, t.flushScope? = none) ∧
      ∀ t ∈ after, ∀ r ∈ s.carried t, r.value.objectId? = none := by
  obtain ⟨before, after, hsplit⟩ := List.append_of_mem ht
  have hpairs := h.behind valid
  rw [hsplit, List.pairwise_append, List.pairwise_cons] at hpairs
  obtain ⟨-, ⟨hafter, -⟩, hbefore⟩ := hpairs
  have hobjects : ∀ t ∈ s.lane scope, t.flushScope?.isSome = true →
      ¬∀ r ∈ s.carried t, r.value.objectId? = none := by
    intro t hmem hflush hnone
    obtain ⟨r, hr, hobject⟩ := exists_object_of_flush hs isOpen (mem_lane.1 hmem).1 hflush
    rw [hnone r hr] at hobject
    cases hobject
  refine ⟨before, after, hsplit, fun t hmem => ?_, fun t hmem => hafter t hmem flush⟩
  by_contra hnone
  have hflush : t.flushScope?.isSome = true := Option.isSome_iff_ne_none.2 hnone
  rcases List.mem_append.1 hmem with hmem | hmem
  · exact hobjects task ht flush (hbefore t hmem task List.mem_cons_self hflush)
  · refine hobjects t ?_ hflush (hafter t hmem flush)
    rw [hsplit]
    exact List.mem_append_right _ (List.mem_cons_of_mem _ hmem)

/-- The order is kept when an object joins the batch of the flush in the lane. -/
theorem Orderly.extend (h : Orderly scope past s) (hs : s.ledger.Sound)
    (accepts : Accepts s request s') {batch : List Request} {context : Context}
    (flush : .flush context ∈ s.queue.waiting) (serves : context.scope = scope)
    (isOpen : s.queue.isOpen = true) (found : s.pending.find? scope.id = some batch)
    (isObject : request.value.objectId?.isSome) (queue : s'.queue = s.queue)
    (pending : s'.pending = s.pending.put scope.id (batch ++ [request])) :
    Orderly scope past s' := by
  have hlane : s'.lane scope = s.lane scope := by simp only [lane, queue]
  have hempty : s'.queue.isOpen = false → s'.queue.waiting = [] := by
    rw [queue]
    exact h.empty
  have hknown := accepts.known h
  by_cases hv : s.suspensions.isValid scope = true
  · -- split the lane at its only flush: the group of the flush grows, all others stay
    have hmem : .flush context ∈ s.lane scope := mem_lane.2 ⟨flush, congrArg some serves⟩
    obtain ⟨before, after, hsplit, hsingle, hlocal⟩ := h.single_flush hs isOpen hv hmem rfl
    have hothers : ∀ t ∈ before ++ after, s'.carried t = s.carried t := by
      intro t ht
      have hnone := hsingle t ht
      cases t with
      | flush c => cases hnone
      | _ => rfl
    have hown : s.carried (.flush context) = batch := by simp [carried, serves, found]
    have hown' : s'.carried (.flush context) = batch ++ [request] := by
      simp [carried, serves, pending]
    have hgroups : s.groups scope past =
        (past ++ before.map s.carried) ++ batch :: after.map s.carried := by
      rw [groups_of_valid hv, hsplit, List.map_append, List.map_cons, hown, List.append_assoc]
    have hgroups' : s'.groups scope past =
        (past ++ before.map s.carried) ++ (batch ++ [request]) :: after.map s.carried := by
      rw [groups_of_valid (accepts.suspensions ▸ hv), hlane, hsplit, List.map_append, List.map_cons,
        hown', List.map_congr_left fun t ht => hothers t (List.mem_append_left _ ht),
        List.map_congr_left fun t ht => hothers t (List.mem_append_right _ ht), List.append_assoc]
    have hnewer := accepts.newer h
    have hinOrder := h.inOrder
    rw [hgroups] at hknown hnewer hinOrder
    refine ⟨?_, ?_, hempty, ?_, ?_⟩
    · -- inOrder
      rw [hgroups']
      refine hinOrder.extend ?_ (fun g hg => hnewer g ?_) isObject ?_
      · obtain ⟨batch', hbatch', hne, -⟩ := batch_of_flush hs isOpen flush
        rw [serves, found] at hbatch'
        obtain rfl := Option.some.inj hbatch'
        exact hne
      · rcases List.mem_append.1 hg with hg | hg
        · exact List.mem_append_left _ hg
        · exact List.mem_append_right _ (List.mem_singleton.1 hg ▸ List.mem_cons_self)
      · intro g hg
        obtain ⟨t, ht, rfl⟩ := List.mem_map.1 hg
        exact hlocal t ht
    · -- known
      intro group hg r hr
      rw [hgroups', List.mem_append, List.mem_cons] at hg
      rcases hg with hg | rfl | hg
      · exact hknown group (List.mem_append_left _ hg) r hr
      · rcases List.mem_append.1 hr with hr | hr
        · exact hknown batch (by simp) r hr
        · rw [List.mem_singleton.1 hr]
          exact accepts.known_self
      · exact hknown group (List.mem_append_right _ (List.mem_cons_of_mem _ hg)) r hr
    · -- joining
      intro hv' task ht hflush
      rw [hlane] at ht
      exact accepts.joining h hv' task ht hflush
    · -- behind
      intro _
      rw [hlane]
      refine (h.behind hv).imp_of_mem fun {t t'} _ ht' hbehind hflush r hr => ?_
      rw [hsplit, List.mem_append, List.mem_cons] at ht'
      rcases ht' with ht' | rfl | ht'
      · rw [hothers t' (List.mem_append_left _ ht')] at hr
        exact hbehind hflush r hr
      · -- a flush is not behind a flush
        obtain ⟨r', hr', hobject⟩ := exists_object_of_flush hs isOpen flush rfl
        rw [hbehind hflush r' hr'] at hobject
        cases hobject
      · rw [hothers t' (List.mem_append_right _ ht')] at hr
        exact hbehind hflush r hr
  · rw [Bool.not_eq_true] at hv
    have hgroups : s'.groups scope past = s.groups scope past := by
      rw [groups_of_invalid hv, groups_of_invalid (accepts.suspensions ▸ hv)]
    have hinvalid : ¬s'.suspensions.isValid scope = true := by
      rw [accepts.suspensions, hv]
      exact Bool.false_ne_true
    refine ⟨?_, ?_, hempty, fun hv' => absurd hv' hinvalid, fun hv' => absurd hv' hinvalid⟩ <;>
      rw [hgroups]
    · exact h.inOrder
    · exact hknown

end Session

end BatchStringify
