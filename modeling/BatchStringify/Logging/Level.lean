import BatchStringify.Decimal.Numeral

/-!
# Levels

How much is logged, from nothing to everything, and how a level is read and written.
-/

namespace BatchStringify.Logging

/-- A level of detail. As the level of an event it says how much detail must be asked for to see
the event. -/
inductive Level where
  | off
  | error
  | warn
  | info
  | debug
  | trace
  deriving DecidableEq, Repr, Inhabited

namespace Level

/-- The amount of detail. -/
def detail : Level → Nat
  | .off => 0
  | .error => 1
  | .warn => 2
  | .info => 3
  | .debug => 4
  | .trace => 5

/-- All levels by increasing detail. -/
def all : List Level := [.off, .error, .warn, .info, .debug, .trace]

/-- The name of a level. -/
def name : Level → String
  | .off => "off"
  | .error => "error"
  | .warn => "warn"
  | .info => "info"
  | .debug => "debug"
  | .trace => "trace"

/-- Whether a filter at this level lets an event of the other level pass. -/
def enables (l event : Level) : Bool := decide (event.detail ≤ l.detail)

/-- Reads a level: its amount of detail as a number, or its name in any case. -/
def read? (text : List Char) : Option Level :=
  match Decimal.unsigned? text with
  | some n => all[n]?
  | none => all.find? fun l => l.name.toList = text.map Char.toLower

end Level

end BatchStringify.Logging
