import BatchStringify.Proofs.ExactlyOnce
import BatchStringify.Proofs.Order.Runs
import Mathlib.Data.List.Sort

/-!
# Requests of a scope are completed in order

Requests come to be completed by way of the groups in which their scope was served, so they keep the order
of these groups (`Ledger.Delivered`), and that is the order of the submissions but for objects that join a
batch.
-/

namespace BatchStringify

/-- A request for an object is overtaken by no other and overtakes only values with a text of their own. -/
theorem InOrder.flatten {groups : List (List Request)} (h : InOrder groups) :
    groups.flatten.Pairwise fun r r' =>
      r.serial < r'.serial ∨ ∃ group ∈ groups, r ∈ group ∧ Overtakes group r r' := by
  rw [List.pairwise_flatten]
  constructor
  · intro group hg
    exact (h.sorted group hg).imp fun hlt => .inl hlt
  · refine h.apart.imp_of_mem fun {group group'} hg _ hprecedes r hr r' hr' => ?_
    exact (hprecedes r hr r' hr').imp_right fun hover => ⟨group, hg, hr, hover⟩

namespace Ledger

variable {l l' : Ledger} {scope : Scope} {past : List (List Request)} {books : List (Request × Bool)}

/-- The requests of a scope were accepted in the order of their numbers, and completed in the order of the
groups in which the scope was served. -/
structure Delivered (scope : Scope) (past : List (List Request)) (l : Ledger) : Prop where
  sorted : l.accepted.Pairwise (·.serial < ·.serial)
  delivered : ∀ requests : List Request, requests.Sublist (l.completed.map (·.1)) →
    (∀ r ∈ requests, r ∈ l.accepted ∧ r.context.scope = scope) → requests.Sublist past.flatten

theorem Delivered.accept (h : l.Delivered scope past) (hb : l.Accounts books) {request : Request}
    (serial_eq : request.serial = l.made) (accepted : l'.accepted = l.accepted ++ [request])
    (completed : l'.completed = l.completed) : l'.Delivered scope past := by
  constructor
  · rw [accepted]
    refine List.pairwise_append.2 ⟨h.sorted, List.pairwise_singleton _ _, fun r hr r' hr' => ?_⟩
    rw [List.mem_singleton.1 hr', serial_eq]
    exact hb.accepted_lt r hr
  · intro requests hsub hall
    rw [completed] at hsub
    refine h.delivered requests hsub fun r hr => ?_
    obtain ⟨hr', hscope⟩ := hall r hr
    rw [accepted, List.mem_append, List.mem_singleton] at hr'
    rcases hr' with hr' | rfl
    · exact ⟨hr', hscope⟩
    · -- what is completed already is not new
      obtain ⟨p, hp, hpr⟩ := List.mem_map.1 (hsub.subset hr)
      have hlt := hb.completed_lt p hp
      rw [hpr, serial_eq] at hlt
      exact absurd hlt (Nat.lt_irrefl _)

/-- What is completed further, but is not for an accepted request of the scope, is no concern to it. -/
theorem Delivered.complete (h : l.Delivered scope past) {done : List (Request × Completion)}
    (accepted : l'.accepted = l.accepted) (completed : l'.completed = l.completed ++ done)
    (others : ∀ p ∈ done, p.1 ∈ l.accepted → p.1.context.scope ≠ scope) :
    l'.Delivered scope past := by
  refine ⟨accepted ▸ h.sorted, fun requests hsub hall => ?_⟩
  rw [completed, List.map_append, List.sublist_append_iff] at hsub
  obtain ⟨first, second, rfl, hfirst, hsecond⟩ := hsub
  rw [accepted] at hall
  have hnil : second = [] := by
    rw [List.eq_nil_iff_forall_not_mem]
    intro r hr
    obtain ⟨p, hp, rfl⟩ := List.mem_map.1 (hsecond.subset hr)
    obtain ⟨hmem, hscope⟩ := hall p.1 (List.mem_append_right _ hr)
    exact others p hp hmem hscope
  rw [hnil, List.append_nil] at hall ⊢
  exact h.delivered first hfirst hall

theorem Delivered.step (step : Ledger.Step l l') (h : l.Delivered scope past)
    (hb : l.Accounts books) : l'.Delivered scope past := by
  cases step with
  | suspend scope id_eq => exact ⟨h.sorted, h.delivered⟩
  | byHand n done serials =>
    refine h.complete rfl rfl fun p hp hmem => ?_
    have hm := serials.subset (List.mem_map.2 ⟨p, hp, rfl⟩)
    rw [List.mem_range'_1] at hm
    have hlt := hb.accepted_lt p.1 hmem
    omega
  | single request serial_eq scope_mem => exact h.accept hb serial_eq rfl rfl
  | join request serial_eq scope_mem isObject =>
    refine h.accept hb serial_eq ?_ ?_
    · rw [accepted_join]
      rfl
    · rw [completed_join]
      rfl

end Ledger

namespace Session

open Ledger

variable {s : Session} {scope : Scope} {past : List (List Request)} {books : List (Request × Bool)}

theorem delivered_steps {l l' : Ledger} (steps : Relation.ReflTransGen Ledger.Step l l')
    (h : l.Delivered scope past) (hb : l.Accounts books) : l'.Delivered scope past := by
  have hstep : ∀ l l' : Ledger, Ledger.Step l l' → l.Delivered scope past ∧ l.Accounts books →
      l'.Delivered scope past ∧ l'.Accounts books := by
    rintro l l' hstep ⟨h, hb⟩
    exact ⟨h.step hstep hb, Accounts.step hstep hb⟩
  exact (steps_preserve hstep steps ⟨h, hb⟩).1

/-- A turn completes requests of the scope only if it serves the scope, and then in the order of its group.
-/
theorem delivered_turn (h : s.ledger.Delivered scope past) (hb : s.ledger.Accounts books)
    (hs : s.ledger.Sound) :
    (s.after .turn).ledger.Delivered scope (past ++ s.served scope [.turn]) := by
  have hgrow : ∀ {l : Ledger}, l.Delivered scope past →
      l.Delivered scope (past ++ s.served scope [.turn]) := by
    intro l hl
    refine ⟨hl.sorted, fun requests hsub hall => (hl.delivered requests hsub hall).trans ?_⟩
    rw [List.flatten_append]
    exact List.sublist_append_left _ _
  cases hw : s.queue.waiting with
  | nil =>
    rw [after_turn_of_nil hw]
    exact hgrow h
  | cons task rest =>
    by_cases hserves : ∃ other, task.servedScope? = some other
    · obtain ⟨other, hserves⟩ := hserves
      have hcarries := carries_turn hw hserves
      generalize (s.after .turn).ledger = l' at hcarries
      obtain ⟨takes, done, more, first, cancelled, -⟩ := hcarries
      obtain ⟨haccepted, hcompleted, -⟩ := takes.keeps
      rename_i l
      have hdone : ((l.complete done).panic more).completed = s.ledger.completed ++ done :=
        congrArg (· ++ done) hcompleted
      -- only a turn that serves the valid scope adds a group, and its completions are a prefix of that
      by_cases hown : other = scope ∧ s.suspensions.isValid scope = true
      · rw [served_turn hw hserves, if_pos hown]
        refine ⟨haccepted ▸ h.sorted, fun requests hsub hall => ?_⟩
        rw [hdone, List.map_append, List.sublist_append_iff] at hsub
        obtain ⟨old, new, rfl, hold, hnew⟩ := hsub
        rw [List.flatten_append, List.flatten_singleton]
        refine (h.delivered old hold fun r hr => ?_).append (hnew.trans first.sublist)
        obtain ⟨hmem, hscope⟩ := hall r (List.mem_append_left _ hr)
        exact ⟨haccepted ▸ hmem, hscope⟩
      · refine hgrow (h.complete haccepted hdone fun p hp _ hscope => hown ?_)
        have hother := takes.scope_eq hs p.1 (first.subset (List.mem_map_of_mem hp))
        rw [hscope] at hother
        refine ⟨hother.symm, ?_⟩
        by_contra hinvalid
        rw [cancelled (hother ▸ Bool.eq_false_iff.2 hinvalid)] at hp
        cases hp
    · cases task with
      | flush context => exact absurd ⟨_, rfl⟩ hserves
      | individual request => exact absurd ⟨_, rfl⟩ hserves
      | command command place =>
        have hl := leads_act_command command place (s.taken rest) (s.taken rest)
        rw [Leads, ledger_taken_command hw] at hl
        have hend := delivered_steps hl h hb
        rw [after_turn_of_cons hw, ledger_execute]
        exact hgrow ⟨hend.sorted, hend.delivered⟩

theorem delivered_play (events : List Event) (h : s.ledger.Delivered scope past)
    (hb : s.ledger.Accounts books) (hs : s.ledger.Sound) :
    (s.play events).ledger.Delivered scope (past ++ s.served scope events) := by
  induction events generalizing s past books with
  | nil => simpa [served, turns] using h
  | cons event rest ih =>
    have hfirst : (s.after event).ledger.Delivered scope (past ++ s.served scope [event]) := by
      cases event with
      | turn => exact delivered_turn h hb hs
      | step step =>
        simpa [served, turns, after] using delivered_steps (leads_perform step s) h hb
      | dropSender => simpa [served, turns, after] using h
      | dropQueue => simpa [served, turns, after] using ⟨h.sorted, h.delivered⟩
    have hrest := ih hfirst (accounts_after event hb hs) (sound_after event hs)
    rwa [served_cons, ← List.append_assoc]

/-! ## Before and after -/

theorem sublist_or_sublist {α : Type} {a b : α} {l : List α} (ha : a ∈ l) (hb : b ∈ l) (hne : a ≠ b) :
    [a, b].Sublist l ∨ [b, a].Sublist l := by
  obtain ⟨before, after, rfl⟩ := List.append_of_mem ha
  rcases List.mem_append.1 hb with hb | hb
  · right
    exact (List.singleton_sublist.2 hb).append (List.singleton_sublist.2 List.mem_cons_self)
  · rcases List.mem_cons.1 hb with rfl | hb
    · exact absurd rfl hne
    · left
      refine (List.Sublist.cons_cons a (List.singleton_sublist.2 hb)).trans ?_
      exact List.sublist_append_right _ _

instance : Std.Antisymm fun r r' : Request => r.serial < r'.serial :=
  ⟨fun _ _ h h' => absurd h (Nat.lt_asymm h')⟩

/-- Requests of a sorted list stand in it in the order of their numbers. -/
theorem sublist_of_sorted {all requests : List Request} (sorted : all.Pairwise (·.serial < ·.serial))
    (hmem : ∀ r ∈ requests, r ∈ all) (hlt : requests.Pairwise (·.serial < ·.serial)) :
    requests.Sublist all := by
  refine List.sublist_of_subperm_of_pairwise (List.subperm_of_subset ?_ hmem) hlt sorted
  refine hlt.imp fun {r r'} hlt heq => ?_
  rw [heq] at hlt
  exact Nat.lt_irrefl _ hlt

/-- Whether a request was in the batch that some flush of a run took, together with one that was submitted
before a given other request: so the flush was in the queue already when that one came. -/
def JoinedAhead (s : Session) (events : List Event) (r r' : Request) : Prop :=
  ∃ t ∈ s.turns events, ∃ context rest first, t.queue.waiting = .flush context :: rest ∧
    context.scope = r.context.scope ∧ first ∈ t.next ∧ r ∈ t.next ∧
    [first, r', r].Sublist (s.play events).accepted

/-- A group that was served and has two requests, one of them from before a third request, came from a flush
that was in the queue when the third one was submitted. -/
theorem joinedAhead_of_served {s : Session} {events : List Event} {scope : Scope}
    (sorted : (s.play events).accepted.Pairwise (·.serial < ·.serial)) {group : List Request}
    (hgroup : group ∈ s.served scope events) {first r r' : Request} (hfirst : first ∈ group)
    (hr : r ∈ group) (hscope : r.context.scope = scope) (hahead : first.serial < r'.serial)
    (hlt : r'.serial < r.serial)
    (hmem : ∀ x ∈ [first, r', r], x ∈ (s.play events).accepted) : s.JoinedAhead events r r' := by
  obtain ⟨t, ht, rfl⟩ := List.mem_map.1 hgroup
  obtain ⟨hturn, hfilter⟩ := List.mem_filter.1 ht
  rw [Bool.and_eq_true, decide_eq_true_eq] at hfilter
  have hserves : t.servedNext? = some scope := hfilter.1
  refine ⟨t, hturn, ?_⟩
  cases hw : t.queue.waiting with
  | nil => simp [servedNext?, hw] at hserves
  | cons task rest =>
    cases task with
    | flush context =>
      have hcontext : context.scope = scope := by
        simpa [servedNext?, hw, Task.servedScope?] using hserves
      refine ⟨context, rest, first, rfl, hcontext.trans hscope.symm, hfirst, hr, ?_⟩
      refine sublist_of_sorted sorted hmem ?_
      simp [hahead, hlt, Nat.lt_trans hahead hlt]
    | individual request =>
      -- a task of its own carries no second request
      rw [next_of_cons hw, carried, List.mem_singleton] at hfirst hr
      rw [hfirst, ← hr] at hahead
      exact absurd hahead (Nat.lt_asymm hlt)
    | command command place => simp [servedNext?, hw, Task.servedScope?] at hserves

variable (debuggee : Debuggee) (settings : DebuggerSettings) (connection : Connection)

/-- Two requests of a scope that were both completed were completed in the order of their submission, unless
the first one was for a value with a text of its own and the second one for an object that joined a batch
whose flush was in the queue already. This needs that the end of the debuggee is only reported while the
scope is not in use. -/
theorem completed_in_order (events : List Event) (scope : Scope)
    (unused : ∀ p ∈ (start debuggee settings connection).steps events,
      p.2 = .processDetached → p.1.Unused scope) {r₁ r₂ : Request} {c₁ c₂ : Completion} :
    let s := (start debuggee settings connection).play events
    r₁.context.scope = scope → r₂.context.scope = scope → [r₁, r₂].Sublist s.accepted →
    (r₁, c₁) ∈ s.completions → (r₂, c₂) ∈ s.completions →
      [(r₁, c₁), (r₂, c₂)].Sublist s.completions ∨
      r₁.value.objectId? = none ∧ r₂.value.objectId?.isSome = true ∧
        JoinedAhead (start debuggee settings connection) events r₂ r₁ := by
  intro s hscope₁ hscope₂ hsubmitted hdone₁ hdone₂
  have hstart := sound_start debuggee settings connection
  have hbooks := accounts_start debuggee settings connection
  have horder := orderly_play events (orderly_start debuggee settings connection scope) hstart unused
  have hdelivered : s.ledger.Delivered scope
      ([] ++ (start debuggee settings connection).served scope events) :=
    delivered_play events ⟨List.Pairwise.nil, fun _ hsub _ => hsub⟩ hbooks hstart
  rw [List.nil_append] at horder hdelivered
  have hlt : r₁.serial < r₂.serial :=
    List.rel_of_pairwise_cons (hdelivered.sorted.sublist hsubmitted) (List.mem_singleton.2 rfl)
  have hmem₁ : r₁ ∈ s.accepted := hsubmitted.subset (by simp)
  have hmem₂ : r₂ ∈ s.accepted := hsubmitted.subset (by simp)
  have hne : (r₁, c₁) ≠ (r₂, c₂) := by
    intro heq
    rw [(Prod.mk.inj heq).1] at hlt
    exact Nat.lt_irrefl _ hlt
  refine (sublist_or_sublist hdone₁ hdone₂ hne).imp_right fun hreversed => ?_
  -- the second request comes first in the groups in which the scope was served
  have hserved := hdelivered.delivered [r₂, r₁] (hreversed.map Prod.fst) <| by
    simp [hscope₁, hscope₂, show r₁ ∈ s.ledger.accepted from hmem₁,
      show r₂ ∈ s.ledger.accepted from hmem₂]
  have hpast : InOrder ((start debuggee settings connection).served scope events) :=
    horder.inOrder.sublist (List.sublist_append_left _ _)
  rcases List.rel_of_pairwise_cons (hpast.flatten.sublist hserved) (List.mem_singleton.2 rfl) with
    hlt' | ⟨group, hgroup, hin, hobject, hlocal, first, hfirst, hahead⟩
  · exact absurd hlt (Nat.lt_asymm hlt')
  · have hmem : first ∈ s.accepted :=
      (horder.known group (List.mem_append_left _ hgroup) first hfirst).2
    refine ⟨hlocal, hobject, joinedAhead_of_served hdelivered.sorted hgroup hfirst hin hscope₂ hahead
      hlt ?_⟩
    simp [hmem, hmem₁, hmem₂, s]

/-- A value between two objects of one stop. The end of an earlier debuggee was reported before. -/
def valueBetween : List Event :=
  [.step (.suspend 0 (some 1)), .step .processDetached,
    .step (.submit ⟨"a", .object 76 2, ⟨0, none, none⟩, ⟨[], [], [], none⟩⟩),
    .step (.submit ⟨"b", .null, ⟨0, none, none⟩, ⟨[], [], [], none⟩⟩),
    .step (.submit ⟨"c", .object 76 3, ⟨0, none, none⟩, ⟨[], [], [], none⟩⟩), .turn, .turn]

/-- The second object joined the batch of the first one and so overtook the value. -/
theorem completed_in_order_valueBetween :
    let s := (start .withHelper {} .localProcess).play valueBetween
    s.completions.map (·.1.label) = ["a", "c", "b"] ∧
    ∃ a b c, s.accepted = [a, b, c] ∧
      JoinedAhead (start .withHelper {} .localProcess) valueBetween c b := by
  intro s
  have hlabels : s.completions.map (·.1.label) = ["a", "c", "b"] := by decide +kernel
  have haccepted : s.accepted.map (fun r => (r.label, r.context.scope)) =
      [("a", ⟨1, some 1, 0⟩), ("b", ⟨1, some 1, 0⟩), ("c", ⟨1, some 1, 0⟩)] := by decide +kernel
  simp only [List.map_eq_cons_iff, List.map_eq_nil_iff, Prod.mk.injEq] at haccepted
  obtain ⟨a, _, hall, ⟨-, -⟩, b, _, rfl, ⟨hb, hscope₁⟩, c, _, rfl, ⟨hc, hscope₂⟩, rfl⟩ := haccepted
  refine ⟨hlabels, a, b, c, hall, ?_⟩
  have hcompleted : ∀ r ∈ s.accepted, ∃ completion, (r, completion) ∈ s.completions :=
    fun r hr => exists_completion (by decide +kernel) (List.isEmpty_iff.1 (by decide +kernel))
      (neverPanicked_iff.2 (by decide +kernel)) (List.all_eq_true.1 (by decide +kernel)) hr
  obtain ⟨c₁, hdone₁⟩ := hcompleted b (by simp [hall])
  obtain ⟨c₂, hdone₂⟩ := hcompleted c (by simp [hall])
  have hsubmitted : [b, c].Sublist s.accepted := by
    rw [hall]
    exact List.sublist_cons_self _ _
  -- the end of the debuggee was reported before the first submission
  have hunused : ∀ p ∈ (start .withHelper {} .localProcess).steps valueBetween,
      p.2 = .processDetached → p.1.Unused ⟨1, some 1, 0⟩ := by
    have hcheck : (((start .withHelper {} .localProcess).steps valueBetween).all fun p =>
        match p.2 with
        | .processDetached => p.1.accepted.isEmpty
        | _ => true) = true := by decide +kernel
    rintro ⟨t, step⟩ hp rfl
    have hempty := List.isEmpty_iff.1 (List.all_eq_true.1 hcheck _ hp)
    exact .inr fun r hr => by
      rw [hempty] at hr
      cases hr
  rcases completed_in_order .withHelper {} .localProcess valueBetween ⟨1, some 1, 0⟩ hunused hscope₁
    hscope₂ hsubmitted hdone₁ hdone₂ with hsub | ⟨-, -, hjoined⟩
  · have hwrong := hsub.map (·.1.label)
    rw [show ((start .withHelper {} .localProcess).play valueBetween).completions.map (·.1.label) =
      ["a", "c", "b"] from hlabels, List.map_cons, List.map_cons, List.map_nil] at hwrong
    simp only [hb, hc] at hwrong
    exact absurd hwrong (by decide)
  · exact hjoined

end Session

end BatchStringify
