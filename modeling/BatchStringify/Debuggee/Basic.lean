import BatchStringify.Debuggee.Error
import BatchStringify.Debuggee.Value
import BatchStringify.Panic
import BatchStringify.Table

/-!
# The debuggee

A debuggee has loaded classes with their methods, arrays and strings, and an outcome of `toString`
for each object it knows. Everything that it creates gets the next number of one counter. A batch
handler stands for the batch helper method: it answers the elements of the array that the helper
was called with. Chosen operations can be set to fail.
-/

namespace BatchStringify

/-- A class as the debugger refers to it. -/
structure ClassHandle where
  id : ClassId
  name : String
  deriving DecidableEq, Repr, Inhabited

/-- What identifies a method: its class, name and signature. -/
structure MethodKey where
  owner : ClassId
  name : String
  signature : String
  deriving DecidableEq, Repr

/-- The operations that can be set to fail. -/
inductive Operation where
  | findClass
  | findMethod
  | newArray
  | setArrayValues
  | invokeStatic
  | stringValue
  | disableCollection
  deriving DecidableEq, Repr

/-- How the batch helper ends. -/
inductive HandlerReply where
  /-- It returns a new string. -/
  | text (content : String)
  /-- It returns this value. -/
  | value (v : Value)
  /-- It returns a string that is collected before it can be read. -/
  | collected
  | fault (error : RemoteError)
  | panic (payload : Panic)
  deriving DecidableEq, Repr

/-- The batch helper: its reply to the elements of the array, which may depend on how often it was
called before. -/
abbrev Handler := Nat → List Value → HandlerReply

/-- A request to the debuggee. -/
inductive Call where
  | findClass (thread : ThreadId) (name : String) (loader : Option ObjectId)
  | findMethod (owner : ClassHandle) (name signature : String)
  | newArray (elements : ClassHandle) (length : Nat)
  | setArrayValues (array : ObjectId) (values : List Value)
  | invokeStatic (thread : ThreadId) (owner : ClassHandle) (method : MethodId) (args : List Value)
  | stringValue (id : ObjectId)
  | disableCollection (id : ObjectId)
  | enableCollection (id : ObjectId)
  | invokeToString (thread : ThreadId) (id : ObjectId)
  deriving DecidableEq, Repr

/-- The state of a debuggee. -/
structure Debuggee where
  /-- The loaded classes by name. -/
  classes : Table String ClassId := .empty
  methods : Table MethodKey MethodId := .empty
  strings : Table ObjectId String := .empty
  arrays : Table ObjectId (List Value) := .empty
  /-- The outcome of `toString` for each known object. -/
  displays : Table ObjectId (Except RemoteError String) := .empty
  /-- The objects that were collected. -/
  collected : List ObjectId := []
  /-- The objects whose collection is disabled. -/
  pinned : List ObjectId := []
  /-- The operations that fail, with their errors. -/
  failures : Table Operation RemoteError := .empty
  handler : Option Handler := none
  /-- How often the handler was asked. -/
  invocations : Nat := 0
  /-- The last number given out. -/
  lastId : Nat := 10000
  /-- The requests so far, oldest first. -/
  calls : List Call := []

namespace Debuggee

variable (d : Debuggee)

/-- Gives out the next number. -/
def allocate : Nat × Debuggee := (d.lastId + 1, { d with lastId := d.lastId + 1 })

/-- Loads a class; a class that is loaded keeps its number. -/
def defineClass (name : String) : ClassId × Debuggee :=
  match d.classes.find? name with
  | some id => (id, d)
  | none =>
    let (id, d) := d.allocate
    (id, { d with classes := d.classes.put name id })

/-- Gives a class a method, loading the class if need be. -/
def defineMethod (owner name signature : String) : MethodId × Debuggee :=
  let (classId, d) := d.defineClass owner
  let (id, d) := d.allocate
  (id, { d with methods := d.methods.put ⟨classId, name, signature⟩ id })

/-- Settles what `toString` gives for an object. -/
def setDisplay (id : ObjectId) (outcome : Except RemoteError String) : Debuggee :=
  { d with displays := d.displays.put id outcome }

/-- Makes an operation fail from now on. -/
def setFailure (operation : Operation) (error : RemoteError) : Debuggee :=
  { d with failures := d.failures.put operation error }

/-- Installs the batch helper's behaviour, counting its calls anew. -/
def setHandler (handler : Handler) : Debuggee :=
  { d with handler := some handler, invocations := 0 }

/-- Whether the collection of an object is disabled. -/
def isPinned (id : ObjectId) : Bool := d.pinned.contains id

/-- How often `toString` was run on an object. -/
def displayCalls (id : ObjectId) : Nat :=
  d.calls.countP fun call => match call with
    | .invokeToString _ object => object = id
    | _ => false

end Debuggee

end BatchStringify
