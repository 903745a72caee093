import BatchStringify.Decimal.Layout

/-!
# Values of the debuggee

A value is null, void, a primitive or a reference to an object. Primitives and null have a text of
their own; only the debuggee can make the text of an object.
-/

namespace BatchStringify

/-- The number of an object, array or string in the debuggee. -/
abbrev ObjectId := Nat

/-- The number of a thread. -/
abbrev ThreadId := Nat

/-- The number of a loaded class. -/
abbrev ClassId := Nat

/-- The number of a method. -/
abbrev MethodId := Nat

/-- A value as it crosses the connection. Floating-point numbers are kept as their bits. -/
inductive Value where
  | null
  | void
  | boolean (v : Bool)
  | byte (v : Int8)
  | short (v : Int16)
  | int (v : Int32)
  | long (v : Int64)
  | float (bits : UInt32)
  | double (bits : UInt64)
  /-- One unit of UTF-16, possibly half of a pair. -/
  | char (unit : UInt16)
  /-- A reference with the tag of its kind. -/
  | object (tag : UInt8) (id : ObjectId)
  deriving DecidableEq, Repr, Inhabited

namespace Value

/-- The tag of a string object. -/
def stringTag : UInt8 := 115

/-- The tag of an array. -/
def arrayTag : UInt8 := 91

/-- The object that a value refers to. -/
def objectId? : Value → Option ObjectId
  | .object _ id => some id
  | _ => none

/-- Whether a value refers to a string. -/
def isString : Value → Bool
  | .object tag _ => tag = stringTag
  | _ => false

/-- The character of a UTF-16 unit, U+FFFD for half of a pair. -/
def unitChar (unit : UInt16) : Char :=
  if 0xD800 ≤ unit.toNat ∧ unit.toNat ≤ 0xDFFF then '\uFFFD' else Char.ofNat unit.toNat

/-- The text of a value that can be made without asking the debuggee: of every value but a
reference. -/
def localText? : Value → Option String
  | .null => some "null"
  | .void => some "void"
  | .boolean v => some (if v then "true" else "false")
  | .byte v => some (toString v.toInt)
  | .short v => some (toString v.toInt)
  | .int v => some (toString v.toInt)
  | .long v => some (toString v.toInt)
  | .float bits => some (Decimal.Layout.plain.ofBits Binary.single bits.toNat)
  | .double bits => some (Decimal.Layout.plain.ofBits Binary.double bits.toNat)
  | .char unit => some (unitChar unit).toString
  | .object _ _ => none

/-- A value as messages about it show it: its kind and what it holds. -/
def describe : Value → String
  | .null => "Null"
  | .void => "Void"
  | .boolean v => "Boolean(" ++ (if v then "true" else "false") ++ ")"
  | .byte v => "Byte(" ++ toString v.toInt ++ ")"
  | .short v => "Short(" ++ toString v.toInt ++ ")"
  | .int v => "Int(" ++ toString v.toInt ++ ")"
  | .long v => "Long(" ++ toString v.toInt ++ ")"
  | .float bits => "Float(" ++ Decimal.Layout.descriptive.ofBits Binary.single bits.toNat ++ ")"
  | .double bits => "Double(" ++ Decimal.Layout.descriptive.ofBits Binary.double bits.toNat ++ ")"
  | .char unit => "Char(" ++ toString unit.toNat ++ ")"
  | .object tag id =>
    "Object \x7b tag: " ++ toString tag.toNat ++ ", id: " ++ toString id ++ " \x7d"

/-- A value has a local text exactly if it is no reference. -/
theorem localText?_isNone (v : Value) : v.localText?.isNone = v.objectId?.isSome := by
  cases v <;> rfl

end Value

end BatchStringify
