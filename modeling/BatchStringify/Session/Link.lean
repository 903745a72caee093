import BatchStringify.Debuggee.Calls
import BatchStringify.Session.Journal

/-!
# The link to the debuggee

The debuggee as a session sees it: each call goes to the debuggee and into the journal together
with what came of it. A link can be set to report an error when an object is to be let go, although
the debuggee lets it go.
-/

namespace BatchStringify

/-- A debuggee and the journal of what happens around it. -/
structure Link where
  debuggee : Debuggee
  /-- The error that is reported when the collection of an object is enabled. -/
  releaseFault : Option RemoteError := none
  /-- What happened, oldest first. -/
  journal : List Entry := []

namespace Link

variable (link : Link)

/-- Adds an entry to the journal. -/
def record (entry : Entry) : Link := { link with journal := link.journal ++ [entry] }

/-- Adds a notice to the journal. -/
def note (notice : Logging.Notice) : Link := link.record (.notice notice)

/-- The link after a call that left the debuggee in a given state. -/
def exchanged (call : Call) (outcome : Outcome) (debuggee : Debuggee) : Link :=
  { link with debuggee := debuggee }.record (.exchange call outcome)

/-- Looks up a loaded class. -/
def findClass (thread : ThreadId) (name : String) (loader : Option ObjectId) :
    Except RemoteError ClassHandle × Link :=
  let (result, d) := link.debuggee.findClass thread name loader
  (result, link.exchanged (.findClass thread name loader) (.of .owner result) d)

/-- Looks up a method of a class. -/
def findMethod (owner : ClassHandle) (name signature : String) :
    Except RemoteError (Option MethodId) × Link :=
  let (result, d) := link.debuggee.findMethod owner name signature
  (result, link.exchanged (.findMethod owner name signature) (.of .method result) d)

/-- Creates an array of nulls. -/
def newArray (elements : ClassHandle) (length : Nat) : Except RemoteError ObjectId × Link :=
  let (result, d) := link.debuggee.newArray elements length
  (result, link.exchanged (.newArray elements length) (.of .id result) d)

/-- Stores values in the first slots of an array. -/
def setArrayValues (array : ObjectId) (values : List Value) : Except RemoteError Unit × Link :=
  let (result, d) := link.debuggee.setArrayValues array values
  (result, link.exchanged (.setArrayValues array values) (.of (fun _ => .done) result) d)

/-- Runs a static method. -/
def invokeStatic (thread : ThreadId) (owner : ClassHandle) (method : MethodId)
    (args : List Value) : Except Panic (Except RemoteError Value) × Link :=
  let (result, d) := link.debuggee.invokeStatic thread owner method args
  (result, link.exchanged (.invokeStatic thread owner method args) (.ofPanicking result) d)

/-- Reads a string. -/
def stringValue (id : ObjectId) : Except RemoteError String × Link :=
  let (result, d) := link.debuggee.stringValue id
  (result, link.exchanged (.stringValue id) (.of .text result) d)

/-- Keeps an object from being collected. -/
def disableCollection (id : ObjectId) : Except RemoteError Unit × Link :=
  let (result, d) := link.debuggee.disableCollection id
  (result, link.exchanged (.disableCollection id) (.of (fun _ => .done) result) d)

/-- Lets an object be collected again. -/
def enableCollection (id : ObjectId) : Except RemoteError Unit × Link :=
  let (result, d) := link.debuggee.enableCollection id
  let result := match link.releaseFault with
    | some error => .error error
    | none => result
  (result, link.exchanged (.enableCollection id) (.of (fun _ => .done) result) d)

/-- Runs `toString` on an object. -/
def invokeToString (thread : ThreadId) (id : ObjectId) : Except RemoteError String × Link :=
  let (result, d) := link.debuggee.invokeToString thread id
  (result, link.exchanged (.invokeToString thread id) (.of .text result) d)

/-- Makes the call, whatever it is. -/
def perform : Call → Except Panic Outcome × Link
  | .findClass thread name loader =>
    let (result, link) := link.findClass thread name loader
    (.ok (.of .owner result), link)
  | .findMethod owner name signature =>
    let (result, link) := link.findMethod owner name signature
    (.ok (.of .method result), link)
  | .newArray elements length =>
    let (result, link) := link.newArray elements length
    (.ok (.of .id result), link)
  | .setArrayValues array values =>
    let (result, link) := link.setArrayValues array values
    (.ok (.of (fun _ => .done) result), link)
  | .invokeStatic thread owner method args =>
    match link.invokeStatic thread owner method args with
    | (.ok result, link) => (.ok (.of .value result), link)
    | (.error payload, link) => (.error payload, link)
  | .stringValue id =>
    let (result, link) := link.stringValue id
    (.ok (.of .text result), link)
  | .disableCollection id =>
    let (result, link) := link.disableCollection id
    (.ok (.of (fun _ => .done) result), link)
  | .enableCollection id =>
    let (result, link) := link.enableCollection id
    (.ok (.of (fun _ => .done) result), link)
  | .invokeToString thread id =>
    let (result, link) := link.invokeToString thread id
    (.ok (.of .text result), link)

end Link

end BatchStringify
