import BatchStringify.Proofs.Grouping
import BatchStringify.Proofs.Verdicts

/-!
# What a script comes to, seen from its windows

Between two runs of the queue requests are handed in, and the next run settles them: those of one scope that
are to be gathered as one batch, and every other one on its own. So what the requests of a script come to can
be told from the script alone, window by window (`Session.verdicts`). If the steps that concern one scope are
left out, the verdicts on all other requests stay (`verdicts_without`): what a request comes to depends on the
requests of its own scope only, and on none of their numbers.
-/

namespace BatchStringify

/-- Whether a request was made for another scope than the one at a position. -/
def Request.isElsewhere (index : Nat) (r : Request) : Bool := r.context.scope.id != index + 1

/-- A request as it is without its number. -/
def Request.unnumbered (r : Request) : Request := { r with serial := 0 }

/-- Whether a step is a submission for the scope at a position, or its end. -/
def Step.concerns (index : Nat) : Step → Bool
  | .submit submission | .submitRequest submission => submission.place.scope == index
  | .invalidate other => other == index
  | _ => false

/-- Whether a submission is one with the session's own connection whose sink only takes the text, or panics,
which it may only for the scope at a position. -/
def Submission.isApart (index : Nat) (submission : Submission) : Bool :=
  (submission.place.connection.isNone && submission.sink.isMild) &&
    (submission.place.scope == index || submission.sink.panic.isNone)

/-- Whether a step is a stop, the end of a scope, or such a submission. -/
def Step.isApart (index : Nat) : Step → Bool
  | .attach | .suspend _ _ | .invalidate _ => true
  | .submit submission | .submitRequest submission => submission.isApart index
  | _ => false

/-- Whether a step of a script runs the queue or is one of these. -/
def TopStep.isApart (index : Nat) : TopStep → Bool
  | .run => true
  | .step inner => inner.isApart index
  | _ => false

/-- Whether a step of a script is one that concerns the scope at a position. -/
def TopStep.concerns (index : Nat) : TopStep → Bool
  | .step inner => inner.concerns index
  | _ => false

/-! ## Lists and their classes -/

/-- Looked up by their keys, the values of a table come in their order. -/
theorem map_lookup_zip {κ β : Type} [DecidableEq κ] {keys : List κ} {values : List β}
    (nodup : keys.Nodup) (length : keys.length = values.length) :
    keys.map (fun k => (keys.zip values).lookup k) = values.map some := by
  induction keys generalizing values with
  | nil =>
    cases values with
    | nil => rfl
    | cons v rest => cases length
  | cons k keys ih =>
    cases values with
    | nil => cases length
    | cons v values =>
      obtain ⟨hnot, hnodup⟩ := List.nodup_cons.1 nodup
      rw [List.map_cons, List.map_cons, List.zip_cons_cons, List.lookup_cons_self,
        ← ih hnodup (Nat.succ.inj length)]
      congr 1
      refine List.map_congr_left fun k' hk' => ?_
      have hne : (k' == k) = false := beq_eq_false_iff_ne.2 fun h => hnot (h ▸ hk')
      rw [List.lookup_cons, hne]

/-- Two lists that agree within each class of their elements agree, if their elements have the same classes
in the same order. -/
theorem map_eq_of_classes {α β γ κ : Type} [DecidableEq κ] {key : α → κ} {key' : β → κ} {f : α → γ}
    {f' : β → γ} {l : List α} {l' : List β} (keys : l.map key = l'.map key')
    (classes : ∀ c, (l.filter (key · = c)).map f = (l'.filter (key' · = c)).map f') :
    l.map f = l'.map f' := by
  induction l generalizing l' with
  | nil =>
    cases l' with
    | nil => rfl
    | cons b rest => cases keys
  | cons a rest ih =>
    cases l' with
    | nil => cases keys
    | cons b rest' =>
      obtain ⟨hkey, hkeys⟩ := List.cons_eq_cons.1 keys
      have hfirst := classes (key a)
      rw [List.filter_cons_of_pos (by simp), List.filter_cons_of_pos (by simp [hkey])] at hfirst
      obtain ⟨hhead, htail⟩ := List.cons_eq_cons.1 hfirst
      rw [List.map_cons, List.map_cons, hhead, ih hkeys fun c => ?_]
      by_cases hc : key a = c
      · rw [← hc]
        exact htail
      · have hrest := classes c
        rwa [List.filter_cons_of_neg (by simpa using hc),
          List.filter_cons_of_neg (by rw [← hkey]; simpa using hc)] at hrest

namespace Session

/-! ## Rulings -/

/-- Of the requests in a window, those that make up the batch of a scope. -/
def groupOf (o : Session) (window : List Request) (scope : Scope) : List Request :=
  window.filter fun r => o.groupable r && r.context.scope = scope

/-- What a request of a window comes to, if its scope is valid when the queue is run: what the batch of its
scope brings it, or what it comes to alone. -/
def ruling (o : Session) (window : List Request) (r : Request) : Option Completion :=
  if o.groupable r then
    Option.join <| (((o.groupOf window r.context.scope).map (·.serial)).zip
      (o.batchVerdicts r.context.scope
        ((o.groupOf window r.context.scope).map (·.value)))).lookup r.serial
  else some (o.aloneVerdict r.context.scope r.value)

variable {o : Session} {window window' : List Request} {index : Nat}

/-- The requests of a group are ruled together. -/
theorem map_ruling_groupOf (serials : (window.map (·.serial)).Nodup) (scope : Scope) :
    (o.groupOf window scope).map (o.ruling window) =
      o.batchVerdicts scope ((o.groupOf window scope).map (·.value)) := by
  have hnodup : ((o.groupOf window scope).map (·.serial)).Nodup :=
    (List.filter_sublist.map _).nodup serials
  have hlength : ((o.groupOf window scope).map (·.serial)).length =
      (o.batchVerdicts scope ((o.groupOf window scope).map (·.value))).length := by
    rw [length_batchVerdicts, List.length_map, List.length_map]
  have hruling : ∀ r ∈ o.groupOf window scope, o.ruling window r =
      Option.join ((((o.groupOf window scope).map (·.serial)).zip
        (o.batchVerdicts scope ((o.groupOf window scope).map (·.value)))).lookup r.serial) := by
    intro r hr
    have hgroup := (List.mem_filter.1 hr).2
    simp only [Bool.and_eq_true, decide_eq_true_eq] at hgroup
    obtain ⟨hgroupable, rfl⟩ := hgroup
    rw [ruling, if_pos hgroupable]
  rw [List.map_congr_left hruling]
  have hlookup := congrArg (List.map Option.join) (map_lookup_zip hnodup hlength)
  rw [List.map_map, List.map_map, List.map_map] at hlookup
  exact hlookup.trans (by simp [Function.comp_def])

/-- What does not look at numbers sees no difference between windows that are the same but for their numbers. -/
theorem map_filter_of_unnumbered {γ : Type} {p : Request → Bool} {f : Request → γ}
    (same : window.map Request.unnumbered = window'.map Request.unnumbered)
    (hp : ∀ r, p r.unnumbered = p r) (hf : ∀ r, f r.unnumbered = f r) :
    (window.filter p).map f = (window'.filter p).map f := by
  have hwindow : ∀ w : List Request,
      (w.filter p).map f = ((w.map Request.unnumbered).filter p).map f := by
    intro w
    rw [List.filter_map, List.map_map]
    have hcomp : p ∘ Request.unnumbered = p := funext hp
    rw [hcomp]
    exact List.map_congr_left fun r _ => (hf r).symm
  rw [hwindow window, hwindow window', same]

/-- The numbers of requests have no part in what they come to. -/
theorem map_ruling_eq (same : window.map Request.unnumbered = window'.map Request.unnumbered)
    (serials : (window.map (·.serial)).Nodup) (serials' : (window'.map (·.serial)).Nodup) :
    window.map (o.ruling window) = window'.map (o.ruling window') := by
  let key : Request → Option Scope := fun r => if o.groupable r then some r.context.scope else none
  have hkeys : window.map key = window'.map key := by
    have hall := map_filter_of_unnumbered (p := fun _ => true) (f := key) same (fun _ => rfl)
      fun _ => rfl
    rwa [List.filter_true, List.filter_true] at hall
  -- within a class, a request is settled alone or with its batch
  refine map_eq_of_classes hkeys fun c => ?_
  cases c with
  | none =>
    have hfilter : ∀ w : List Request, (w.filter (key · = none)).map (o.ruling w) =
        (w.filter (key · = none)).map fun r => some (o.aloneVerdict r.context.scope r.value) := by
      intro w
      refine List.map_congr_left fun r hr => ?_
      have hkey := (List.mem_filter.1 hr).2
      simp only [key, decide_eq_true_eq, ite_eq_right_iff, reduceCtorEq, imp_false] at hkey
      rw [ruling, if_neg hkey]
    rw [hfilter, hfilter]
    exact map_filter_of_unnumbered same (fun _ => rfl) fun _ => rfl
  | some scope =>
    have hfilter : ∀ w : List Request, w.filter (key · = some scope) = o.groupOf w scope := by
      intro w
      refine List.filter_congr fun r _ => ?_
      cases hg : o.groupable r <;> simp [key, hg]
    rw [hfilter, hfilter, map_ruling_groupOf serials, map_ruling_groupOf serials']
    congr 1
    exact map_filter_of_unnumbered same (fun _ => rfl) fun _ => rfl

/-! ## Verdicts -/

/-- What each request of a script for another scope than the one at a position comes to, in the order of the
submissions, with the requests that wait already. Those that are not settled by a run come to nothing. -/
def verdicts (o : Session) (index : Nat) :
    Outlook → List Request → List TopStep → List (Request × Option Completion)
  | _, window, [] => window.map (·, none)
  | k, window, .run :: rest =>
    (window.map fun r =>
      (r, if k.suspensions.isValid r.context.scope then o.ruling window r else none)) ++
        verdicts o index k [] rest
  | k, window, .step step :: rest =>
    verdicts o index (k.after step) (window ++ (k.submitted step).filter (·.isElsewhere index)) rest
  | k, window, _ :: rest => verdicts o index k window rest

/-- There is a verdict for every request of the window and of the script elsewhere. -/
theorem map_fst_verdicts (k : Outlook) (window : List Request) (script : List TopStep) :
    (o.verdicts index k window script).map (·.1) =
      window ++ (k.requests script).filter (·.isElsewhere index) := by
  induction script generalizing k window with
  | nil => simp [verdicts, Outlook.requests, Function.comp_def]
  | cons step rest ih =>
    cases step with
    | run => simp [verdicts, Outlook.requests, ih, Function.comp_def]
    | step inner => simp [verdicts, Outlook.requests, ih]
    | _ => exact ih k window

end Session

namespace Outlook

/-- Whether two outlooks agree about everything but the end of the scope at a position, and about the requests
made. -/
structure Agrees (index : Nat) (k k' : Outlook) : Prop where
  scopes : k'.suspensions.scopes = k.suspensions.scopes
  /-- The scopes are numbered by their positions. -/
  ids : ∀ i scope, k.suspensions.scopes[i]? = some scope → scope.id = i + 1
  detached : k'.suspensions.detached = k.suspensions.detached
  invalidated : ∀ id, id ≠ index + 1 →
    (id ∈ k'.suspensions.invalidated ↔ id ∈ k.suspensions.invalidated)
  connection : k'.connection = k.connection

variable {index : Nat} {k k' : Outlook}

/-- Agreeing outlooks have the same valid scopes elsewhere. -/
theorem Agrees.isValid (h : Agrees index k k') {scope : Scope} (elsewhere : scope.id ≠ index + 1) :
    k'.suspensions.isValid scope = k.suspensions.isValid scope := by
  have hcontains : k'.suspensions.invalidated.contains scope.id =
      k.suspensions.invalidated.contains scope.id := by
    rw [Bool.eq_iff_iff, List.contains_iff_mem, List.contains_iff_mem]
    exact h.invalidated scope.id elsewhere
  rw [Suspensions.isValid, Suspensions.isValid, hcontains, Suspensions.isDetached, h.detached]
  rfl

/-- They make the same requests, but for their numbers. -/
theorem Agrees.requestOf (h : Agrees index k k') (submission : Submission) :
    (k'.requestOf submission).toList.map Request.unnumbered =
      (k.requestOf submission).toList.map Request.unnumbered := by
  unfold Outlook.requestOf
  rw [h.scopes, h.connection]
  cases k.suspensions.scopes[submission.place.scope]? <;> rfl

/-- So a step submits the same elsewhere in both. -/
theorem Agrees.submitted (h : Agrees index k k') (step : Step) :
    ((k'.submitted step).filter (·.isElsewhere index)).map Request.unnumbered =
      ((k.submitted step).filter (·.isElsewhere index)).map Request.unnumbered := by
  have hsame : (k'.submitted step).map Request.unnumbered =
      (k.submitted step).map Request.unnumbered := by
    cases step with
    | submit submission => exact h.requestOf submission
    | submitRequest submission => exact h.requestOf submission
    | _ => rfl
  exact Session.map_filter_of_unnumbered hsame (fun _ => rfl) fun _ => rfl

/-- A submission for the scope at a position makes no request for another one. -/
theorem Agrees.elsewhere_of_concerns (h : Agrees index k k') {step : Step}
    (concerns : step.concerns index = true) :
    (k.submitted step).filter (·.isElsewhere index) = [] := by
  have hrequest : ∀ submission : Submission, submission.place.scope = index →
      (k.requestOf submission).toList.filter (·.isElsewhere index) = [] := by
    intro submission hplace
    unfold Outlook.requestOf
    cases hs : k.suspensions.scopes[submission.place.scope]? with
    | none => rfl
    | some scope =>
      have hid := h.ids _ scope hs
      rw [hplace] at hid
      simp [Request.isElsewhere, hid]
  cases step with
  | submit submission => exact hrequest submission (eq_of_beq concerns)
  | submitRequest submission => exact hrequest submission (eq_of_beq concerns)
  | _ => rfl

/-- The end of a scope adds its number to those that were ended, if there is such a scope. -/
theorem mem_invalidated_after (h : Agrees index k k') (other id : Nat) :
    id ∈ (k.after (.invalidate other)).suspensions.invalidated ↔
      id ∈ k.suspensions.invalidated ∨
        id = other + 1 ∧ other < k.suspensions.scopes.length := by
  unfold Outlook.after
  dsimp only
  cases hs : k.suspensions.scopes[other]? with
  | none =>
    have hlength := List.getElem?_eq_none_iff.1 hs
    exact ⟨.inl, fun hid => hid.resolve_right fun hid => absurd hid.2 (Nat.not_lt.2 hlength)⟩
  | some scope =>
    have hlength := (List.getElem?_eq_some_iff.1 hs).1
    have hid := h.ids other scope hs
    simp [Suspensions.invalidate, hid, hlength, or_comm]

/-- Ending a scope neither adds nor detaches any. -/
theorem after_invalidate_keeps (k : Outlook) (other : Nat) :
    (k.after (.invalidate other)).suspensions.scopes = k.suspensions.scopes ∧
      (k.after (.invalidate other)).suspensions.detached = k.suspensions.detached ∧
      (k.after (.invalidate other)).connection = k.connection := by
  unfold Outlook.after
  dsimp only
  split <;> exact ⟨rfl, rfl, rfl⟩

theorem Agrees.symm (h : Agrees index k k') : Agrees index k' k :=
  ⟨h.scopes.symm, fun i scope hs => h.ids i scope (h.scopes ▸ hs), h.detached.symm,
    fun id hid => (h.invalidated id hid).symm, h.connection.symm⟩

/-- A step that keeps the scope apart leaves agreeing outlooks in agreement. -/
theorem Agrees.after (h : Agrees index k k') {step : Step} (apart : step.isApart index = true) :
    Agrees index (k.after step) (k'.after step) := by
  cases step with
  | attach =>
    exact ⟨h.scopes, h.ids, congrArg (· ++ [false]) h.detached, h.invalidated, h.connection⟩
  | suspend attachment thread =>
    refine ⟨?_, ?_, h.detached, h.invalidated, h.connection⟩
    · simp [Outlook.after, Suspensions.suspend, Suspensions.nextScope, h.scopes]
    · intro i scope hs
      simp only [Outlook.after, Suspensions.suspend] at hs
      rcases Nat.lt_trichotomy i k.suspensions.scopes.length with hlt | rfl | hgt
      · rw [List.getElem?_append_left hlt] at hs
        exact h.ids i scope hs
      · rw [List.getElem?_concat_length] at hs
        obtain rfl := Option.some.inj hs
        rfl
      · have hlength : (k.suspensions.scopes ++
            [k.suspensions.nextScope attachment thread]).length ≤ i := by
          rw [List.length_append]
          exact hgt
        rw [List.getElem?_eq_none_iff.2 hlength] at hs
        cases hs
  | invalidate other =>
    obtain ⟨hscopes, hdetached, hconnection⟩ := k.after_invalidate_keeps other
    obtain ⟨hscopes', hdetached', hconnection'⟩ := k'.after_invalidate_keeps other
    refine ⟨?_, ?_, ?_, fun id hid => ?_, ?_⟩
    · rw [hscopes, hscopes', h.scopes]
    · rw [hscopes]
      exact h.ids
    · rw [hdetached, hdetached', h.detached]
    · rw [mem_invalidated_after h, mem_invalidated_after h.symm, h.scopes, h.invalidated id hid]
    · rw [hconnection, hconnection', h.connection]
  | submit submission => exact ⟨h.scopes, h.ids, h.detached, h.invalidated, h.connection⟩
  | submitRequest submission => exact ⟨h.scopes, h.ids, h.detached, h.invalidated, h.connection⟩
  | _ => cases apart

/-- A step that concerns the scope at a position leaves an outlook in agreement with one in which it is not
taken. -/
theorem Agrees.skip (h : Agrees index k k') {step : Step} (concerns : step.concerns index = true) :
    Agrees index (k.after step) k' := by
  cases step with
  | submit submission => exact ⟨h.scopes, h.ids, h.detached, h.invalidated, h.connection⟩
  | submitRequest submission => exact ⟨h.scopes, h.ids, h.detached, h.invalidated, h.connection⟩
  | invalidate other =>
    obtain rfl : other = index := eq_of_beq concerns
    obtain ⟨hscopes, hdetached, hconnection⟩ := k.after_invalidate_keeps other
    refine ⟨?_, ?_, ?_, fun id hid => ?_, ?_⟩
    · rw [hscopes, h.scopes]
    · rw [hscopes]
      exact h.ids
    · rw [hdetached, h.detached]
    · rw [mem_invalidated_after h, h.invalidated id hid]
      exact ⟨.inl, fun hmem => hmem.resolve_right fun hother => hid hother.1⟩
    · rw [hconnection, h.connection]
  | _ => cases concerns

/-- Whether the requests of a window are for other scopes than the one at a position and have different
numbers, all of them given out before. -/
structure IsWindow (index : Nat) (k : Outlook) (window : List Request) : Prop where
  serials : (window.map (·.serial)).Nodup
  made : ∀ r ∈ window, r.serial < k.made
  elsewhere : ∀ r ∈ window, r.isElsewhere index = true

theorem IsWindow.nil (index : Nat) (k : Outlook) : IsWindow index k [] :=
  ⟨List.nodup_nil, by simp, by simp⟩

/-- The requests that a step submits elsewhere come last in a window. -/
theorem IsWindow.after {window : List Request} (h : IsWindow index k window) (step : Step) :
    IsWindow index (k.after step) (window ++ (k.submitted step).filter (·.isElsewhere index)) := by
  obtain ⟨hmade, hone, hserial⟩ := k.after_made step
  -- a new request has the next number, which is above all in the window
  have hnew : ∀ r ∈ (k.submitted step).filter (·.isElsewhere index), r.serial = k.made :=
    fun r hr => hserial r (List.mem_filter.1 hr).1
  have hlength : ((k.submitted step).filter (·.isElsewhere index)).length ≤
      (k.submitted step).length := List.length_filter_le _ _
  have helsewhere : ∀ r ∈ window ++ (k.submitted step).filter (·.isElsewhere index),
      r.isElsewhere index = true := by
    intro r hr
    rcases List.mem_append.1 hr with hr | hr
    · exact h.elsewhere r hr
    · exact (List.mem_filter.1 hr).2
  refine ⟨?_, ?_, helsewhere⟩
  · rw [List.map_append, List.nodup_append]
    refine ⟨h.serials, ?_, fun n hn m hm => ?_⟩
    · -- a step makes one request at most
      match hs : (k.submitted step).filter (·.isElsewhere index) with
      | [] =>
        rw [hs]
        exact List.nodup_nil
      | [r] =>
        rw [hs]
        exact List.nodup_singleton _
      | _ :: _ :: _ =>
        rw [hs] at hlength
        exact absurd (Nat.le_trans hlength hone) (by simp)
    · obtain ⟨r, hr, rfl⟩ := List.mem_map.1 hn
      obtain ⟨r', hr', rfl⟩ := List.mem_map.1 hm
      rw [hnew r' hr']
      exact Nat.ne_of_lt (h.made r hr)
  · intro r hr
    rw [hmade]
    rcases List.mem_append.1 hr with hr | hr
    · exact Nat.lt_of_lt_of_le (h.made r hr) (Nat.le_add_right _ _)
    · rw [hnew r hr]
      exact Nat.lt_add_of_pos_right (Nat.lt_of_lt_of_le (List.length_pos_of_mem hr) hlength)

end Outlook

namespace Session

variable {o : Session} {index : Nat} {k k' : Outlook} {window window' : List Request}

/-- What is settled by a run depends on the requests in the window, without their numbers, and on which of
their scopes are valid. -/
theorem map_settled_eq (h : k.Agrees index k')
    (same : window.map Request.unnumbered = window'.map Request.unnumbered)
    (isWindow : k.IsWindow index window) (isWindow' : k'.IsWindow index window') :
    (window.map fun r => (r.unnumbered,
      if k.suspensions.isValid r.context.scope then o.ruling window r else none)) =
    window'.map fun r => (r.unnumbered,
      if k'.suspensions.isValid r.context.scope then o.ruling window' r else none) := by
  have hpairs : (window.map fun r => (r.unnumbered, o.ruling window r)) =
      window'.map fun r => (r.unnumbered, o.ruling window' r) := by
    rw [← List.zip_map', ← List.zip_map', same,
      map_ruling_eq same isWindow.serials isWindow'.serials]
  have hsettled := congrArg (List.map fun p : Request × Option Completion =>
    (p.1, if k.suspensions.isValid p.1.context.scope then p.2 else none)) hpairs
  rw [List.map_map, List.map_map] at hsettled
  refine hsettled.trans (List.map_congr_left fun r hr => ?_)
  -- the outlooks may differ in whether the scope at the position is valid, but no request is for that
  have helsewhere : r.context.scope.id ≠ index + 1 := bne_iff_ne.1 (isWindow'.elsewhere r hr)
  rw [h.isValid helsewhere]
  rfl

/-- If the steps that concern the scope at a position are left out of a script, the requests for all other
scopes and what they come to stay as they are, but for their numbers. -/
theorem verdicts_without (h : k.Agrees index k')
    (same : window.map Request.unnumbered = window'.map Request.unnumbered)
    (isWindow : k.IsWindow index window) (isWindow' : k'.IsWindow index window')
    {script : List TopStep} (apart : ∀ step ∈ script, step.isApart index = true) :
    (o.verdicts index k window script).map (fun p => (p.1.unnumbered, p.2)) =
      (o.verdicts index k' window' (script.filter (!·.concerns index))).map
        fun p => (p.1.unnumbered, p.2) := by
  -- by induction on the script, with agreeing outlooks and windows that differ in the numbers only
  induction script generalizing k k' window window' with
  | nil =>
    have hpairs := congrArg (List.map fun r : Request => (r, (none : Option Completion))) same
    rw [List.map_map, List.map_map] at hpairs
    rw [List.filter_nil, verdicts, verdicts, List.map_map, List.map_map]
    exact hpairs
  | cons step rest ih =>
    have hrest : ∀ step ∈ rest, step.isApart index = true :=
      fun step hs => apart step (List.mem_cons_of_mem _ hs)
    have hfirst := apart step List.mem_cons_self
    cases step with
    | run =>
      have hsettled := map_settled_eq (o := o) h same isWindow isWindow'
      rw [List.filter_cons_of_pos (by rfl), verdicts, verdicts, List.map_append, List.map_append,
        List.map_map, List.map_map, ih h rfl (.nil index k) (.nil index k') hrest]
      exact congrArg (· ++ _) hsettled
    | step inner =>
      cases hconcerns : inner.concerns index with
      | true =>
        have hskip := h.skip hconcerns
        have hafter := isWindow.after inner
        have hnone := h.elsewhere_of_concerns hconcerns
        rw [List.filter_cons_of_neg (by simp [TopStep.concerns, hconcerns]), verdicts]
        rw [hnone, List.append_nil] at hafter ⊢
        exact ih hskip same hafter isWindow' hrest
      | false =>
        rw [List.filter_cons_of_pos (by simp [TopStep.concerns, hconcerns]), verdicts, verdicts]
        refine ih (h.after hfirst) ?_ (isWindow.after inner) (isWindow'.after inner) hrest
        rw [List.map_append, List.map_append, same, h.submitted inner]
    | _ => cases hfirst

end Session

end BatchStringify
