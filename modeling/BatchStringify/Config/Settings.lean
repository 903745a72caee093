import BatchStringify.Text.Blank

/-!
# Settings

The settings of the debugger and of its log, with their defaults.
-/

namespace BatchStringify

/-- How values are turned into text. -/
structure DebuggerSettings where
  /-- Whether the values of one stop are turned into text by a single call. -/
  batchEvaluation : Bool := true
  /-- The class of the batch helper in the debuggee. -/
  helperClass : String := "com.intellij.rt.debugger.BatchEvaluatorServer"
  /-- The name of the helper method. -/
  helperMethod : String := "evaluate"
  /-- The signature of the helper method. -/
  helperSignature : String := "([Ljava/lang/Object;)Ljava/lang/String;"
  /-- The type of the array that hands the values to the helper. -/
  arrayType : String := "java.lang.Object[]"
  deriving DecidableEq, Repr, Inhabited

/-- What is logged and how. -/
structure LoggingSettings where
  /-- A bare level or a list of filter directives. -/
  level : String := "info"
  /-- Whether events are written as objects. -/
  json : Bool := false
  /-- Whether events are written at all. -/
  stderr : Bool := true
  deriving DecidableEq, Repr, Inhabited

/-- All settings. -/
structure Settings where
  logging : LoggingSettings := {}
  debugger : DebuggerSettings := {}
  deriving DecidableEq, Repr, Inhabited

/-- The filter directives for a level text: a bare level name counts in any case and `warning`
stands for `warn`, a blank text means `info`, and any other text is taken without the blanks around
it. -/
def directives (level : String) : String :=
  let text := Text.trim level
  let lower := text.map Char.toLower
  if lower = "" then "info"
  else if lower = "warning" then "warn"
  else if lower ∈ ["trace", "debug", "info", "warn", "error"] then lower
  else text

end BatchStringify
