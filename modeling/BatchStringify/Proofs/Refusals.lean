import BatchStringify.Proofs.Keeping

/-!
# Calls that fail

A call to the debuggee can fail for a known number of reasons (`Debuggee.Refuses`), all of which are looked at before
anything is created or stored. So a call that fails leaves the debuggee as it was, but for the list of calls, to which
every call adds itself (`Debuggee.failure_changes_nothing`). What the handler remembers of how often it was
asked is not the debuggee's.
-/

namespace BatchStringify

/-- The operation that a call is, if it is one that can be set to fail. -/
def Call.operation? : Call → Option Operation
  | .findClass _ _ _ => some .findClass
  | .findMethod _ _ _ => some .findMethod
  | .newArray _ _ => some .newArray
  | .setArrayValues _ _ => some .setArrayValues
  | .invokeStatic _ _ _ _ => some .invokeStatic
  | .stringValue _ => some .stringValue
  | .disableCollection _ => some .disableCollection
  | .enableCollection _ | .invokeToString _ _ => none

/-- Whether a call only reads what the debuggee holds. -/
def Call.isReading : Call → Bool
  | .findClass _ _ _ | .findMethod _ _ _ | .stringValue _ | .invokeToString _ _ => true
  | _ => false

namespace Outcome

variable {α : Type} {ok : α → Outcome} {error : RemoteError}

/-- An outcome that is an error comes from a result that is one. -/
theorem of_eq_error {result : Except RemoteError α} (h : Outcome.of ok result = .error error)
    (success : ∀ a, ok a ≠ .error error) : result = .error error := by
  cases result with
  | ok a => exact absurd h (success a)
  | error cause =>
    cases h
    rfl

/-- A result is no panic. -/
theorem of_ne_panicked (result : Except RemoteError α) (success : ∀ a, ok a ≠ .panicked) :
    Outcome.of ok result ≠ .panicked := by
  cases result with
  | ok a => exact success a
  | error cause => nofun

/-- A call that may panic ended with an error if its outcome is one. -/
theorem ofPanicking_eq_error {result : Except Panic (Except RemoteError Value)}
    (h : ofPanicking result = .error error) : result = .ok (.error error) := by
  cases result with
  | ok result => exact congrArg Except.ok (of_eq_error h nofun)
  | error payload => cases h

theorem ofPanicking_eq_panicked {result : Except Panic (Except RemoteError Value)}
    (h : ofPanicking result = .panicked) : ∃ payload, result = .error payload := by
  cases result with
  | ok result => exact absurd h (of_ne_panicked result nofun)
  | error payload => exact ⟨payload, rfl⟩

end Outcome

namespace Debuggee

variable (d : Debuggee)

/-- What comes of a call. -/
def outcome : Call → Outcome
  | .findClass thread name loader => .of .owner (d.findClass thread name loader).1
  | .findMethod owner name signature => .of .method (d.findMethod owner name signature).1
  | .newArray elements length => .of .id (d.newArray elements length).1
  | .setArrayValues array values => .of (fun _ => .done) (d.setArrayValues array values).1
  | .invokeStatic thread owner method args =>
    .ofPanicking (d.invokeStatic thread owner method args).1
  | .stringValue id => .of .text (d.stringValue id).1
  | .disableCollection id => .of (fun _ => .done) (d.disableCollection id).1
  | .enableCollection id => .of (fun _ => .done) (d.enableCollection id).1
  | .invokeToString thread id => .of .text (d.invokeToString thread id).1

/-- Whether a call is an operation that is not set to fail. -/
def Allows (call : Call) : Prop := ∀ operation ∈ call.operation?, d.failures.find? operation = none

/-- Whether a debuggee has a reason to refuse a call with an error. A failure that is set comes before all other
reasons. -/
inductive Refuses : Call → RemoteError → Prop
  | set {call : Call} {error : RemoteError} (operation : Operation)
      (kind : call.operation? = some operation)
      (failure : d.failures.find? operation = some error) : Refuses call error
  | unknownClass {thread : ThreadId} {name : String} {loader : Option ObjectId}
      (allows : d.Allows (.findClass thread name loader)) (unknown : d.classes.find? name = none) :
      Refuses (.findClass thread name loader) (.classNotLoaded name)
  | missingArray {array : ObjectId} {values : List Value}
      (allows : d.Allows (.setArrayValues array values)) (missing : d.arrays.find? array = none) :
      Refuses (.setArrayValues array values) (.objectCollected array)
  | shortArray {array : ObjectId} {values slots : List Value}
      (allows : d.Allows (.setArrayValues array values))
      (found : d.arrays.find? array = some slots) (short : slots.length < values.length) :
      Refuses (.setArrayValues array values) (.invalidType (toString values.length ++
        " values do not fit an array of length " ++ toString slots.length))
  /-- The first value that is no element of an object array is reported, wherever it stands. -/
  | unassignable {array : ObjectId} {values slots before after : List Value} {bad : Value}
      (allows : d.Allows (.setArrayValues array values))
      (found : d.arrays.find? array = some slots) (fits : values.length ≤ slots.length)
      (values_eq : values = before ++ bad :: after) (good : ∀ v ∈ before, isAssignable v = true)
      (isBad : isAssignable bad = false) :
      Refuses (.setArrayValues array values)
        (.invalidType (bad.describe ++ " is not assignable to java.lang.Object"))
  | wrongArguments {thread : ThreadId} {owner : ClassHandle} {method : MethodId} {args : List Value}
      (allows : d.Allows (.invokeStatic thread owner method args))
      (wrong : ∀ array, args ≠ [.object Value.arrayTag array]) :
      Refuses (.invokeStatic thread owner method args)
        (.invalidType "expected a single array argument")
  | missingArgument {thread : ThreadId} {owner : ClassHandle} {method : MethodId} {array : ObjectId}
      (allows : d.Allows (.invokeStatic thread owner method [.object Value.arrayTag array]))
      (missing : d.arrays.find? array = none) :
      Refuses (.invokeStatic thread owner method [.object Value.arrayTag array])
        (.objectCollected array)
  | noHandler {thread : ThreadId} {owner : ClassHandle} {method : MethodId} {array : ObjectId}
      {elements : List Value}
      (allows : d.Allows (.invokeStatic thread owner method [.object Value.arrayTag array]))
      (found : d.arrays.find? array = some elements) (unset : d.handler = none) :
      Refuses (.invokeStatic thread owner method [.object Value.arrayTag array])
        (.evaluation "no mock batch handler")
  | handlerFault {thread : ThreadId} {owner : ClassHandle} {method : MethodId} {array : ObjectId}
      {elements : List Value} {handler : Handler} {error : RemoteError}
      (allows : d.Allows (.invokeStatic thread owner method [.object Value.arrayTag array]))
      (found : d.arrays.find? array = some elements) (installed : d.handler = some handler)
      (fault : handler d.invocations elements = .fault error) :
      Refuses (.invokeStatic thread owner method [.object Value.arrayTag array]) error
  | unknownString {id : ObjectId} (allows : d.Allows (.stringValue id))
      (unknown : d.strings.find? id = none) : Refuses (.stringValue id) (.objectCollected id)
  | collected {id : ObjectId} (allows : d.Allows (.disableCollection id))
      (gone : id ∈ d.collected) : Refuses (.disableCollection id) (.objectCollected id)
  /-- The object is known, and `toString` fails for it. -/
  | display {thread : ThreadId} {id : ObjectId} {error : RemoteError}
      (fails : d.displays.find? id = some (.error error)) :
      Refuses (.invokeToString thread id) error
  | unknownObject {thread : ThreadId} {id : ObjectId} (unknown : d.displays.find? id = none) :
      Refuses (.invokeToString thread id) (.objectCollected id)

/-- Whether two debuggees hold the same: all but their lists of calls, and the count that belongs to the handler. -/
structure SameState (d d' : Debuggee) : Prop where
  classes : d'.classes = d.classes
  methods : d'.methods = d.methods
  strings : d'.strings = d.strings
  arrays : d'.arrays = d.arrays
  displays : d'.displays = d.displays
  collected : d'.collected = d.collected
  pinned : d'.pinned = d.pinned
  failures : d'.failures = d.failures
  handler : d'.handler = d.handler
  lastId : d'.lastId = d.lastId

variable {d} {d' : Debuggee} {call : Call} {error : RemoteError}

/-! ## Reasons are reported -/

/-- An operation is allowed unless a failure was set for it. -/
theorem allows_iff {operation : Operation} (h : call.operation? = some operation) :
    d.Allows call ↔ d.failures.find? operation = none := by
  simp [Allows, h]

/-- The helper takes one array and nothing else. -/
theorem arrayArgument?_eq_some_iff {args : List Value} {array : ObjectId} :
    arrayArgument? args = some array ↔ args = [.object Value.arrayTag array] := by
  unfold arrayArgument?
  split
  · split <;> simp_all
  · rename_i hother
    simpa using fun h => hother _ _ h

/-- The value that is complained about is the first one that cannot be stored. -/
theorem find?_bad_eq_some_iff {values : List Value} {bad : Value} :
    values.find? (fun v => !isAssignable v) = some bad ↔
      isAssignable bad = false ∧ ∃ before after, values = before ++ bad :: after ∧
        ∀ v ∈ before, isAssignable v = true := by
  simp [List.find?_eq_some_iff_append]

/-- A reason to refuse a call is what the caller gets. -/
theorem Refuses.outcome_eq (h : d.Refuses call error) : d.outcome call = .error error := by
  cases h with
  | set operation kind failure =>
    cases call <;> cases kind <;>
      simp [outcome, findClass, findMethod, newArray, setArrayValues, invokeStatic, stringValue,
        disableCollection, noted, failure, Outcome.of, Outcome.ofPanicking]
  | unknownClass allows unknown =>
    rw [allows_iff rfl] at allows
    simp [outcome, findClass, noted, allows, unknown, Outcome.of]
  | missingArray allows missing =>
    rw [allows_iff rfl] at allows
    simp [outcome, setArrayValues, noted, allows, missing, Outcome.of]
  | shortArray allows found short =>
    rw [allows_iff rfl] at allows
    simp [outcome, setArrayValues, noted, allows, found, short, Outcome.of]
  | unassignable allows found fits values_eq good isBad =>
    rw [allows_iff rfl] at allows
    have hbad := find?_bad_eq_some_iff.2 ⟨isBad, _, _, values_eq, good⟩
    simp [outcome, setArrayValues, noted, allows, found, Nat.not_lt.2 fits, hbad, Outcome.of]
  | wrongArguments allows wrong =>
    rw [allows_iff rfl] at allows
    have hnone := Option.eq_none_iff_forall_ne_some.2 fun array ha =>
      wrong array (arrayArgument?_eq_some_iff.1 ha)
    simp [outcome, invokeStatic, noted, allows, hnone, Outcome.of, Outcome.ofPanicking]
  | missingArgument allows missing =>
    rw [allows_iff rfl] at allows
    simp [outcome, invokeStatic, noted, allows, arrayArgument?, missing, Outcome.of,
      Outcome.ofPanicking]
  | noHandler allows found unset =>
    rw [allows_iff rfl] at allows
    simp [outcome, invokeStatic, noted, allows, arrayArgument?, found, unset, Outcome.of,
      Outcome.ofPanicking]
  | handlerFault allows found installed fault =>
    rw [allows_iff rfl] at allows
    simp [outcome, invokeStatic, noted, allows, arrayArgument?, found, installed, fault, settle,
      Outcome.of, Outcome.ofPanicking]
  | unknownString allows unknown =>
    rw [allows_iff rfl] at allows
    simp [outcome, stringValue, noted, allows, unknown, Outcome.of]
  | collected allows gone =>
    rw [allows_iff rfl] at allows
    simp [outcome, disableCollection, noted, allows, gone, Outcome.of]
  | display fails => simp [outcome, invokeToString, noted, fails, Outcome.of]
  | unknownObject unknown => simp [outcome, invokeToString, noted, unknown, Outcome.of]

/-! ## What fails has a reason, and changes nothing -/

/-- Counting a call changes nothing of the state. -/
theorem sameState_noted (d : Debuggee) (call : Call) : d.SameState (d.noted call) :=
  ⟨rfl, rfl, rfl, rfl, rfl, rfl, rfl, rfl, rfl, rfl⟩

/-- A class is not found if a failure was set or there is none of that name. -/
theorem findClass_error {thread : ThreadId} {name : String} {loader : Option ObjectId}
    (h : d.findClass thread name loader = (.error error, d')) :
    d.Refuses (.findClass thread name loader) error ∧ d.SameState d' := by
  unfold findClass at h
  dsimp only [noted] at h
  split at h
  · rename_i hset
    cases h
    exact ⟨.set _ rfl hset, sameState_noted d _⟩
  · cases h
  · rename_i hallows hunknown
    cases h
    exact ⟨.unknownClass ((allows_iff rfl).2 hallows) hunknown, sameState_noted d _⟩

/-- Looking for a method fails only if a failure was set. -/
theorem findMethod_error {owner : ClassHandle} {name signature : String}
    (h : d.findMethod owner name signature = (.error error, d')) :
    d.Refuses (.findMethod owner name signature) error ∧ d.SameState d' := by
  unfold findMethod at h
  dsimp only [noted] at h
  split at h
  · rename_i hset
    cases h
    exact ⟨.set _ rfl hset, sameState_noted d _⟩
  · cases h

/-- A new array fails if a failure was set. -/
theorem newArray_error {elements : ClassHandle} {length : Nat}
    (h : d.newArray elements length = (.error error, d')) :
    d.Refuses (.newArray elements length) error ∧ d.SameState d' := by
  unfold newArray at h
  dsimp only [noted] at h
  split at h
  · rename_i hset
    cases h
    exact ⟨.set _ rfl hset, sameState_noted d _⟩
  · cases h

/-- Values that are not stored are refused all together: nothing is stored up to the one that is wrong. -/
theorem setArrayValues_error {array : ObjectId} {values : List Value}
    (h : d.setArrayValues array values = (.error error, d')) :
    d.Refuses (.setArrayValues array values) error ∧ d.SameState d' := by
  unfold setArrayValues at h
  dsimp only [noted] at h
  split at h
  · rename_i hset
    cases h
    exact ⟨.set _ rfl hset, sameState_noted d _⟩
  · rename_i hallows
    have allows : d.Allows (.setArrayValues array values) := (allows_iff rfl).2 hallows
    split at h
    · rename_i hmissing
      cases h
      exact ⟨.missingArray allows hmissing, sameState_noted d _⟩
    · rename_i slots hfound
      split at h
      · rename_i hshort
        cases h
        exact ⟨.shortArray allows hfound hshort, sameState_noted d _⟩
      · rename_i hfits
        split at h
        · rename_i bad hbad
          cases h
          obtain ⟨isBad, before, after, hvalues, good⟩ := find?_bad_eq_some_iff.1 hbad
          exact ⟨.unassignable allows hfound (Nat.not_lt.1 hfits) hvalues good isBad,
            sameState_noted d _⟩
        · cases h

/-- If the handler's reply is an error or a panic, nothing comes of it. -/
theorem settle_failed {reply : HandlerReply} {result : Except Panic (Except RemoteError Value)}
    (h : d.settle reply = (result, d')) (failed : ∀ v, result ≠ .ok (.ok v)) :
    d' = d ∧ ∀ error, result = .ok (.error error) → reply = .fault error := by
  cases reply with
  | fault cause =>
    cases h
    exact ⟨rfl, fun error herror => by cases herror; rfl⟩
  | panic payload =>
    cases h
    exact ⟨rfl, fun error herror => by cases herror⟩
  | _ =>
    cases h
    exact absurd rfl (failed _)

/-- A static call that fails has a reason, or else the handler panicked over it. -/
theorem invokeStatic_failed {thread : ThreadId} {owner : ClassHandle} {method : MethodId}
    {args : List Value} {result : Except Panic (Except RemoteError Value)}
    (h : d.invokeStatic thread owner method args = (result, d'))
    (failed : ∀ v, result ≠ .ok (.ok v)) :
    (∀ error, result = .ok (.error error) →
      d.Refuses (.invokeStatic thread owner method args) error) ∧ d.SameState d' := by
  unfold invokeStatic at h
  dsimp only [noted] at h
  split at h
  · rename_i hset
    cases h
    exact ⟨fun error herror => by cases herror; exact .set _ rfl hset, sameState_noted d _⟩
  · rename_i hallows
    have allows : d.Allows (.invokeStatic thread owner method args) := (allows_iff rfl).2 hallows
    split at h
    · rename_i hnone
      cases h
      refine ⟨fun error herror => ?_, sameState_noted d _⟩
      cases herror
      refine .wrongArguments allows fun array hargs => ?_
      rw [arrayArgument?_eq_some_iff.2 hargs] at hnone
      cases hnone
    · rename_i array harray
      obtain rfl := arrayArgument?_eq_some_iff.1 harray
      split at h
      · rename_i hmissing
        cases h
        exact ⟨fun error herror => by cases herror; exact .missingArgument allows hmissing,
          sameState_noted d _⟩
      · rename_i elements hfound hnone
        cases h
        exact ⟨fun error herror => by cases herror; exact .noHandler allows hfound hnone,
          sameState_noted d _⟩
      · rename_i elements handler hfound hhandler
        obtain ⟨rfl, hfault⟩ := settle_failed h failed
        exact ⟨fun error herror => .handlerFault allows hfound hhandler (hfault error herror),
          ⟨rfl, rfl, rfl, rfl, rfl, rfl, rfl, rfl, rfl, rfl⟩⟩

/-- A string cannot be read if a failure was set or none is known by that id. -/
theorem stringValue_error {id : ObjectId} (h : d.stringValue id = (.error error, d')) :
    d.Refuses (.stringValue id) error ∧ d.SameState d' := by
  unfold stringValue at h
  dsimp only [noted] at h
  split at h
  · rename_i hset
    cases h
    exact ⟨.set _ rfl hset, sameState_noted d _⟩
  · cases h
  · rename_i hallows hunknown
    cases h
    exact ⟨.unknownString ((allows_iff rfl).2 hallows) hunknown, sameState_noted d _⟩

/-- An object cannot be pinned if a failure was set or it was collected. -/
theorem disableCollection_error {id : ObjectId} (h : d.disableCollection id = (.error error, d')) :
    d.Refuses (.disableCollection id) error ∧ d.SameState d' := by
  unfold disableCollection at h
  dsimp only [noted] at h
  split at h
  · rename_i hset
    cases h
    exact ⟨.set _ rfl hset, sameState_noted d _⟩
  · rename_i hallows
    split at h
    · rename_i hgone
      cases h
      exact ⟨.collected ((allows_iff rfl).2 hallows) (List.contains_iff_mem.1 hgone),
        sameState_noted d _⟩
    · cases h

/-- An object has no text if none is known for it, or if `toString` fails for it. -/
theorem invokeToString_error {thread : ThreadId} {id : ObjectId}
    (h : d.invokeToString thread id = (.error error, d')) :
    d.Refuses (.invokeToString thread id) error ∧ d.SameState d' := by
  unfold invokeToString at h
  dsimp only [noted] at h
  split at h
  · rename_i outcome hknown
    cases h
    exact ⟨.display hknown, sameState_noted d _⟩
  · rename_i hunknown
    cases h
    exact ⟨.unknownObject hunknown, sameState_noted d _⟩

/-- A call that fails has a reason to, and changes nothing. -/
theorem refuses_of_outcome (h : d.outcome call = .error error) :
    d.Refuses call error ∧ d.SameState (d.afterCall call) := by
  cases call with
  | findClass thread name loader =>
    exact findClass_error (Prod.ext (Outcome.of_eq_error h nofun) rfl)
  | findMethod owner name signature =>
    exact findMethod_error (Prod.ext (Outcome.of_eq_error h nofun) rfl)
  | newArray elements length =>
    exact newArray_error (Prod.ext (Outcome.of_eq_error h nofun) rfl)
  | setArrayValues array values =>
    exact setArrayValues_error (Prod.ext (Outcome.of_eq_error h nofun) rfl)
  | invokeStatic thread owner method args =>
    have hresult : (d.invokeStatic thread owner method args).1 = .ok (.error error) :=
      Outcome.ofPanicking_eq_error h
    obtain ⟨hreason, hsame⟩ := invokeStatic_failed (Prod.ext hresult rfl) (by simp)
    exact ⟨hreason error rfl, hsame⟩
  | stringValue id => exact stringValue_error (Prod.ext (Outcome.of_eq_error h nofun) rfl)
  | disableCollection id =>
    exact disableCollection_error (Prod.ext (Outcome.of_eq_error h nofun) rfl)
  | enableCollection id => cases h
  | invokeToString thread id =>
    exact invokeToString_error (Prod.ext (Outcome.of_eq_error h nofun) rfl)

/-- Only the handler panics, and then nothing comes of the call either. -/
theorem sameState_of_panicked (h : d.outcome call = .panicked) :
    d.SameState (d.afterCall call) := by
  cases call with
  | invokeStatic thread owner method args =>
    obtain ⟨payload, hresult⟩ := Outcome.ofPanicking_eq_panicked h
    exact (invokeStatic_failed (Prod.ext hresult rfl) (by simp)).2
  | enableCollection id => cases h
  | _ => exact absurd h (Outcome.of_ne_panicked _ nofun)

/-! ## The list of calls -/

/-- A call that only reads adds itself to the list and does nothing else. -/
theorem afterCall_of_isReading (d : Debuggee) {call : Call} (h : call.isReading = true) :
    d.afterCall call = d.noted call := by
  unfold afterCall
  cases call with
  | findClass thread name loader =>
    unfold findClass
    dsimp only
    split <;> rfl
  | findMethod owner name signature =>
    unfold findMethod
    dsimp only
    split <;> rfl
  | stringValue id =>
    unfold stringValue
    dsimp only
    split <;> rfl
  | invokeToString thread id =>
    unfold invokeToString
    dsimp only
    split <;> rfl
  | _ => cases h

/-- The reply of a handler is no further call. -/
theorem calls_settle (d : Debuggee) (reply : HandlerReply) : (d.settle reply).2.calls = d.calls := by
  cases reply <;> rfl

/-- Every call adds itself to the list, whatever comes of it. -/
theorem calls_afterCall (d : Debuggee) (call : Call) :
    (d.afterCall call).calls = d.calls ++ [call] := by
  cases call with
  | newArray elements length =>
    unfold afterCall newArray
    dsimp only
    split <;> rfl
  | setArrayValues array values =>
    unfold afterCall setArrayValues
    dsimp only
    split
    · rfl
    · split
      · rfl
      · split
        · rfl
        · split <;> rfl
  | invokeStatic thread owner method args =>
    unfold afterCall invokeStatic
    dsimp only
    split
    · rfl
    · split
      · rfl
      · split
        · rfl
        · rfl
        · exact calls_settle _ _
  | disableCollection id =>
    unfold afterCall disableCollection
    dsimp only
    split
    · rfl
    · split <;> rfl
  | enableCollection id => rfl
  | _ => rw [d.afterCall_of_isReading rfl, noted]

/-- Every call adds one entry to the list of calls, the call itself, whether it succeeds or fails or the handler panics
over it. It comes to an error exactly if there is a reason for this error, and if it does, or if the handler panics,
nothing is changed: no class, method, string, array, outcome of `toString`, pin or failure that is set, nor what was
collected, nor the last number. -/
theorem failure_changes_nothing (d : Debuggee) (call : Call) :
    (d.afterCall call).calls = d.calls ++ [call] ∧
    (∀ error, d.outcome call = .error error ↔ d.Refuses call error) ∧
    ((∃ error, d.outcome call = .error error) ∨ d.outcome call = .panicked →
      d.SameState (d.afterCall call)) := by
  refine ⟨d.calls_afterCall call, fun error => ?_, ?_⟩
  · exact ⟨fun h => (refuses_of_outcome h).1, Refuses.outcome_eq⟩
  · rintro (⟨error, herror⟩ | hpanicked)
    · exact (refuses_of_outcome herror).2
    · exact sameState_of_panicked hpanicked

/-- Two values are to be stored, of which the second one is no object: the first one is not stored either. Then the
helper is run and panics. -/
theorem failure_changes_nothing_secondValue :
    let d := ((Debuggee.withHelper.setHandler fun _ _ => .panic .unreadable).newArray
      ⟨10001, "java.lang.Object[]"⟩ 2).2
    let store : Call := .setArrayValues 10004 [.object 76 2, .int 7]
    let run : Call := .invokeStatic 1 ⟨10002, "com.intellij.rt.debugger.BatchEvaluatorServer"⟩ 10003
      [.object Value.arrayTag 10004]
    d.outcome store = .error (.invalidType "Int(7) is not assignable to java.lang.Object") ∧
    d.outcome run = .panicked ∧
    d.SameState (d.afterCall store) ∧ d.SameState (d.afterCall run) ∧
    (d.afterCall store).arrays.find? 10004 = some [.null, .null] := by
  intro d store run
  have hstore : d.outcome store =
      .error (.invalidType "Int(7) is not assignable to java.lang.Object") := by decide +kernel
  have hrun : d.outcome run = .panicked := by decide +kernel
  obtain ⟨-, -, hsame⟩ := failure_changes_nothing d store
  obtain ⟨-, -, hsame'⟩ := failure_changes_nothing d run
  exact ⟨hstore, hrun, hsame (.inl ⟨_, hstore⟩), hsame' (.inr hrun), by decide +kernel⟩

end Debuggee

end BatchStringify
