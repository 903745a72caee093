import BatchStringify.Debuggee.Basic

/-!
# Calls to the debuggee

The requests that a debugger can make. Each adds one entry to the list of calls, whatever comes of
it. One that fails changes nothing else; the counter of handler calls, which belongs to the handler,
is the one exception.
-/

namespace BatchStringify.Debuggee

variable (d : Debuggee)

/-- The debuggee with one more request in its list. -/
def noted (call : Call) : Debuggee := { d with calls := d.calls ++ [call] }

/-- Looks up a loaded class. -/
def findClass (thread : ThreadId) (name : String) (loader : Option ObjectId) :
    Except RemoteError ClassHandle × Debuggee :=
  let d := d.noted (.findClass thread name loader)
  match d.failures.find? .findClass, d.classes.find? name with
  | some error, _ => (.error error, d)
  | none, some id => (.ok ⟨id, name⟩, d)
  | none, none => (.error (.classNotLoaded name), d)

/-- Looks up a method of a class. -/
def findMethod (owner : ClassHandle) (name signature : String) :
    Except RemoteError (Option MethodId) × Debuggee :=
  let d := d.noted (.findMethod owner name signature)
  match d.failures.find? .findMethod with
  | some error => (.error error, d)
  | none => (.ok (d.methods.find? ⟨owner.id, name, signature⟩), d)

/-- Creates an array of nulls. -/
def newArray (elements : ClassHandle) (length : Nat) : Except RemoteError ObjectId × Debuggee :=
  let d := d.noted (.newArray elements length)
  match d.failures.find? .newArray with
  | some error => (.error error, d)
  | none =>
    let (id, d) := d.allocate
    (.ok id, { d with arrays := d.arrays.put id (List.replicate length .null) })

/-- Whether a value can be an element of an object array. -/
def isAssignable : Value → Bool
  | .null | .object _ _ => true
  | _ => false

/-- Stores values in the first slots of an array: all of them or none. -/
def setArrayValues (array : ObjectId) (values : List Value) :
    Except RemoteError Unit × Debuggee :=
  let d := d.noted (.setArrayValues array values)
  match d.failures.find? .setArrayValues with
  | some error => (.error error, d)
  | none =>
    match d.arrays.find? array with
    | none => (.error (.objectCollected array), d)
    | some slots =>
      if slots.length < values.length then
        (.error (.invalidType (toString values.length ++ " values do not fit an array of length " ++
          toString slots.length)), d)
      else match values.find? fun v => !isAssignable v with
        | some bad =>
          (.error (.invalidType (bad.describe ++ " is not assignable to java.lang.Object")), d)
        | none =>
          (.ok (), { d with arrays := d.arrays.put array (values ++ slots.drop values.length) })

/-- The array that a static call passes, if it passes one array and nothing else. -/
def arrayArgument? : List Value → Option ObjectId
  | [.object tag id] => if tag = Value.arrayTag then some id else none
  | _ => none

/-- What the debuggee does with the handler's reply. -/
def settle : HandlerReply → Except Panic (Except RemoteError Value) × Debuggee
  | .text content =>
    let (id, d) := d.allocate
    (.ok (.ok (.object Value.stringTag id)), { d with strings := d.strings.put id content })
  | .value v => (.ok (.ok v), d)
  | .collected =>
    let (id, d) := d.allocate
    (.ok (.ok (.object Value.stringTag id)), { d with collected := d.collected ++ [id] })
  | .fault error => (.ok (.error error), d)
  | .panic payload => (.error payload, d)

/-- Runs a static method with one array, which the handler answers and may panic over. -/
def invokeStatic (thread : ThreadId) (owner : ClassHandle) (method : MethodId)
    (args : List Value) : Except Panic (Except RemoteError Value) × Debuggee :=
  let d := d.noted (.invokeStatic thread owner method args)
  match d.failures.find? .invokeStatic with
  | some error => (.ok (.error error), d)
  | none =>
    match arrayArgument? args with
    | none => (.ok (.error (.invalidType "expected a single array argument")), d)
    | some array =>
      match d.arrays.find? array, d.handler with
      | none, _ => (.ok (.error (.objectCollected array)), d)
      | some _, none => (.ok (.error (.evaluation "no mock batch handler")), d)
      | some elements, some handler =>
        { d with invocations := d.invocations + 1 }.settle (handler d.invocations elements)

/-- Reads a string. -/
def stringValue (id : ObjectId) : Except RemoteError String × Debuggee :=
  let d := d.noted (.stringValue id)
  match d.failures.find? .stringValue, d.strings.find? id with
  | some error, _ => (.error error, d)
  | none, some content => (.ok content, d)
  | none, none => (.error (.objectCollected id), d)

/-- Keeps an object from being collected. -/
def disableCollection (id : ObjectId) : Except RemoteError Unit × Debuggee :=
  let d := d.noted (.disableCollection id)
  match d.failures.find? .disableCollection with
  | some error => (.error error, d)
  | none =>
    if d.collected.contains id then (.error (.objectCollected id), d)
    else (.ok (), { d with pinned := id :: d.pinned.erase id })

/-- Lets an object be collected again. -/
def enableCollection (id : ObjectId) : Except RemoteError Unit × Debuggee :=
  let d := d.noted (.enableCollection id)
  (.ok (), { d with pinned := d.pinned.filter (· ≠ id) })

/-- Runs `toString` on an object. -/
def invokeToString (thread : ThreadId) (id : ObjectId) : Except RemoteError String × Debuggee :=
  let d := d.noted (.invokeToString thread id)
  match d.displays.find? id with
  | some outcome => (outcome, d)
  | none => (.error (.objectCollected id), d)

end BatchStringify.Debuggee
